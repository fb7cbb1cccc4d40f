import CleanBackend.Auth.SessionStore
import CleanBackend.Lib.TwoRuns

/-!
# Data that differ in GoTrue tokens only

Two values are the same but tokens when they are equal outside the GoTrue tokens they hold, and these are either equal
or any two texts that GoTrue may issue.  A row holds them as ciphertexts.  A call of the session repository keeps two
databases the same but tokens, and answers the same but tokens (`exec_same`).
-/

namespace CleanBackend

/-! ### Tokens -/

/-- Letters, digits, `.`, `-` and `_`. -/
def tokenChar (c : Char) : Bool := c.isAlphanum || c == '.' || c == '-' || c == '_'

def IsToken (text : String) : Prop := text ≠ "" ∧ ∀ c ∈ text.toList, tokenChar c

instance (text : String) : Decidable (IsToken text) :=
  decidable_of_iff (text ≠ "" ∧ text.toList.all tokenChar = true) (and_congr Iff.rfl List.all_eq_true)

/-- Equal texts, or two tokens. -/
def SameToken (t t' : String) : Prop := t = t' ∨ IsToken t ∧ IsToken t'

theorem SameToken.refl (t : String) : SameToken t t := Or.inl rfl

theorem tokenChar_ascii {c : Char} (h : tokenChar c = true) : 32 ≤ c.toNat ∧ c.toNat ≤ 126 := by
  unfold tokenChar at h
  simp only [Bool.or_eq_true, beq_iff_eq] at h
  rcases h with ((h | rfl) | rfl) | rfl
  · have h : (decide (c.val ≥ 65 ∧ c.val ≤ 90) || (c.val ≥ 97 && c.val ≤ 122) || (c.val ≥ 48 && c.val ≤ 57)) = true :=
        h
    simp only [Bool.or_eq_true, Bool.and_eq_true, decide_eq_true_eq, ge_iff_le, UInt32.le_iff_toNat_le] at h
    have hval : c.toNat = c.val.toNat := rfl
    simp at h
    omega
  · decide
  · decide
  · decide

/-- Equal ciphertexts, or those of two tokens. -/
def AdapterEnv.SameCiphertext (env : AdapterEnv) (c c' : Bytea) : Prop :=
  c = c' ∨ ∃ t t', env.decrypt c = .ok t ∧ env.decrypt c' = .ok t' ∧ IsToken t ∧ IsToken t'

namespace AdapterEnv

variable {env : AdapterEnv} {P : Int → Prop} {c c' : Bytea} {t t' : String}

private theorem SameCiphertext.refl (c : Bytea) : env.SameCiphertext c c := Or.inl rfl

private theorem encrypt_same (henv : env.LawfulOn P) (h : SameToken t t') (draw : Bytea) :
    env.SameCiphertext (env.encrypt draw t) (env.encrypt draw t') := by
  rcases h with rfl | ⟨ht, ht'⟩
  · exact Or.inl rfl
  · exact Or.inr ⟨t, t', decrypt_encrypt henv draw t, decrypt_encrypt henv draw t', ht, ht'⟩

/-- Both decrypt, to the same but tokens, or neither does. -/
private theorem SameCiphertext.decrypt (h : env.SameCiphertext c c') :
    SameExcept SameToken (env.decrypt c) (env.decrypt c') := by
  rcases h with rfl | ⟨t, t', ht, ht', hi, hi'⟩
  · cases env.decrypt c with
    | error e => exact .error e
    | ok t => exact .ok (.refl t)
  · rw [ht, ht']
    exact .ok (Or.inr ⟨hi, hi'⟩)

end AdapterEnv

/-! ### Rows and tables -/

inductive UserSession.SameButTokens (env : AdapterEnv) : UserSession → UserSession → Prop where
  | mk (s : UserSession) {a a' r r' : Bytea} (ha : env.SameCiphertext a a') (hr : env.SameCiphertext r r') :
      SameButTokens env { s with gotrueAccessToken := a, gotrueRefreshToken := r }
        { s with gotrueAccessToken := a', gotrueRefreshToken := r' }

structure Database.SameButTokens (env : AdapterEnv) (db db' : Database) : Prop where
  identity : db.toIdentityTables = db'.toIdentityTables
  rows : List.Forall₂ (UserSession.SameButTokens env) db.userSessions db'.userSessions

section Rows

variable {env : AdapterEnv} {s s' : UserSession} {db db' : Database}

namespace UserSession.SameButTokens

private theorem refl (s : UserSession) : s.SameButTokens env s := .mk s (.refl _) (.refl _)

/-- Every other column is the same. -/
private theorem column {γ : Type} (h : s.SameButTokens env s') (f : UserSession → γ)
    (hf : ∀ r a b, f { r with gotrueAccessToken := a, gotrueRefreshToken := b } = f r) : f s = f s' := by
  cases h with
  | mk r => exact (hf r _ _).trans (hf r _ _).symm

private theorem id (h : s.SameButTokens env s') : s.id = s'.id := h.column _ fun _ _ _ => rfl

private theorem tokenHash (h : s.SameButTokens env s') : s.tokenHash = s'.tokenHash := h.column _ fun _ _ _ => rfl

private theorem check (h : s.SameButTokens env s') (now : Int) : s.check now = s'.check now :=
  h.column (fun s => s.check now) fun _ _ _ => rfl

private theorem created (h : s.SameButTokens env s') : s.created = s'.created := h.column _ fun _ _ _ => rfl

private theorem revoke (h : s.SameButTokens env s') (now : Int) :
    ((SessionUpdate.revoke now).set s).SameButTokens env ((SessionUpdate.revoke now).set s') := by
  cases h with
  | mk s ha hr => exact .mk ((SessionUpdate.revoke now).set s) ha hr

private theorem slide (h : s.SameButTokens env s') (now idleTtl : Int) :
    ((SessionUpdate.slide now idleTtl).set s).SameButTokens env ((SessionUpdate.slide now idleTtl).set s') := by
  cases h with
  | mk s ha hr => exact .mk ((SessionUpdate.slide now idleTtl).set s) ha hr

end UserSession.SameButTokens

namespace Database.SameButTokens

theorem refl (db : Database) : db.SameButTokens env db :=
  ⟨rfl, List.forall₂_same.2 fun s _ => .refl s⟩

private theorem map_eq {γ : Type} (h : db.SameButTokens env db') (f : UserSession → γ)
    (hf : ∀ s s', s.SameButTokens env s' → f s = f s') : db.userSessions.map f = db'.userSessions.map f := by
  rw [← List.forall₂_eq_eq_eq, List.forall₂_map_left_iff, List.forall₂_map_right_iff]
  exact h.rows.imp fun s s' hs => hf s s' hs

private theorem sessionOf (h : db.SameButTokens env db') (k : Bytea) :
    (db.sessionOf k = none ∧ db'.sessionOf k = none) ∨
      ∃ s s', db.sessionOf k = some s ∧ db'.sessionOf k = some s' ∧ s.SameButTokens env s' :=
  findBy_forall₂ (fun _ _ hs => hs.tokenHash) k h.rows

private theorem update (h : db.SameButTokens env db') {u : SessionUpdate}
    (hu : ∀ s s' : UserSession, s.SameButTokens env s' → (u.set s).SameButTokens env (u.set s'))
    {cond cond' : UserSession → Bool} (hcond : ∀ s s', s.SameButTokens env s' → cond s = cond' s') :
    (db.updateSessions u cond).SameButTokens env (db'.updateSessions u cond') := by
  refine ⟨h.identity, ?_⟩
  show List.Forall₂ _ (db.userSessions.map (u.on cond)) (db'.userSessions.map (u.on cond'))
  rw [List.forall₂_map_left_iff, List.forall₂_map_right_iff]
  refine h.rows.imp fun s s' hs => ?_
  unfold SessionUpdate.on
  rw [hcond s s' hs]
  split
  · exact hu s s' hs
  · exact hs

/-- An `INSERT` meets the same violation, or none. -/
private theorem insert (h : db.SameButTokens env db') (hs : s.SameButTokens env s') :
    SameExcept (SameButTokens env) (db.insertSession s) (db'.insertSession s') := by
  have hids := h.map_eq UserSession.id fun _ _ hs => hs.id
  have hhashes := h.map_eq UserSession.tokenHash fun _ _ hs => hs.tokenHash
  have hidle := hs.column (fun s => s.idleExpiresAt ≤ s.absoluteExpiresAt) fun _ _ _ => rfl
  have hlength := hs.column (fun s => s.tokenHash.length = 32) fun _ _ _ => rfl
  have hid : s.id ∉ db.userSessions.map UserSession.id ↔ s'.id ∉ db'.userSessions.map UserSession.id := by
    rw [hids, hs.id]
  have hhash : s.tokenHash ∉ db.userSessions.map UserSession.tokenHash ↔
      s'.tokenHash ∉ db'.userSessions.map UserSession.tokenHash := by
    rw [hhashes, hs.tokenHash]
  have huser : s.userId ∈ db.users.map User.id ↔ s'.userId ∈ db'.users.map User.id := by
    rw [h.identity, hs.column UserSession.userId fun _ _ _ => rfl]
  have htenant : s.tenantId ∈ db.tenants.map Tenant.id ↔ s'.tenantId ∈ db'.tenants.map Tenant.id := by
    rw [h.identity, hs.column UserSession.tenantId fun _ _ _ => rfl]
  have hrotated : s.rotatedFrom.all (· ∈ db.userSessions.map UserSession.id) ↔
      s'.rotatedFrom.all (· ∈ db'.userSessions.map UserSession.id) := by
    rw [hids, hs.column UserSession.rotatedFrom fun _ _ _ => rfl]
  unfold insertSession
  refine .check (Iff.of_eq hidle) fun _ _ => .check (Iff.of_eq hlength) fun _ _ => .check hid fun _ _ => ?_
  refine .check hhash fun _ _ => .check huser fun _ _ => .check htenant fun _ _ => .check hrotated fun _ _ => ?_
  exact .ok ⟨h.identity, List.rel_append h.rows (.cons hs .nil)⟩

end Database.SameButTokens

end Rows

/-! ### The session functions -/

inductive CreateArgs.SameButTokens (env : AdapterEnv) : CreateArgs → CreateArgs → Prop where
  | mk (args : CreateArgs) {a a' r r' : Bytea} (ha : env.SameCiphertext a a') (hr : env.SameCiphertext r r') :
      SameButTokens env { args with accessCt := a, refreshCt := r } { args with accessCt := a', refreshCt := r' }

inductive RotateArgs.SameButTokens (env : AdapterEnv) : RotateArgs → RotateArgs → Prop where
  | mk (args : RotateArgs) {a a' r r' : Bytea} (ha : env.SameCiphertext a a') (hr : env.SameCiphertext r r') :
      SameButTokens env { args with accessCt := a, refreshCt := r } { args with accessCt := a', refreshCt := r' }

inductive ActiveSession.SameButTokens (env : AdapterEnv) : ActiveSession → ActiveSession → Prop where
  | mk (d : ActiveSession) {a a' r r' : Bytea} (ha : env.SameCiphertext a a') (hr : env.SameCiphertext r r') :
      SameButTokens env { d with gotrueAccessToken := a, gotrueRefreshToken := r }
        { d with gotrueAccessToken := a', gotrueRefreshToken := r' }

/-- Two outcomes of a call: databases that are the same but tokens, and related results. -/
structure SameOutcome (env : AdapterEnv) {α : Type} (A : α → α → Prop) (o o' : Database × α) : Prop where
  db : o.1.SameButTokens env o'.1
  result : A o.2 o'.2

section Functions

variable {env : AdapterEnv} {db db' : Database} {s s' : UserSession} {now : Int}

private theorem CreateArgs.SameButTokens.row {a a' : CreateArgs} (h : a.SameButTokens env a') (id : Uuid)
    (now : Int) :
    (a.row id now).SameButTokens env (a'.row id now) := by
  cases h with
  | mk args ha hr => exact .mk (args.row id now) ha hr

/-- The new row has its tokens from the call and the other columns from the old row. -/
private theorem RotateArgs.SameButTokens.row {a a' : RotateArgs} (h : a.SameButTokens env a') (id : Uuid) (now : Int)
    (hs : s.SameButTokens env s') : (a.row id now s).SameButTokens env (a'.row id now s') := by
  cases h with
  | mk args ha hr => cases hs with
    | mk s => exact .mk (args.row id now s) ha hr

private theorem UserSession.SameButTokens.active (hs : s.SameButTokens env s') (email : Option String) :
    (s.active email).SameButTokens env (s'.active email) := by
  cases hs with
  | mk s ha hr => exact .mk (s.active email) ha hr

namespace Database.SameButTokens

private theorem create (h : db.SameButTokens env db') {a a' : CreateArgs} (ha : a.SameButTokens env a') (id : Uuid) :
    SameOutcome env Eq ((SessionCall.create id a).exec db now) ((SessionCall.create id a').exec db' now) := by
  have hrow := ha.row id now
  have htenant : a.tenantId = a'.tenantId := hrow.column UserSession.tenantId fun _ _ _ => rfl
  have huser : a.userId = a'.userId := hrow.column UserSession.userId fun _ _ _ => rfl
  simp only [SessionCall.exec, createUserSession, h.identity, htenant, huser, hrow.created]
  split
  · exact ⟨h, rfl⟩
  · split
    · exact ⟨h, rfl⟩
    · rcases (h.insert hrow).elim with ⟨e, he, he'⟩ | ⟨d, d', hd, hd', hsame⟩
      · rw [he, he']
        exact ⟨h, rfl⟩
      · rw [hd, hd']
        exact ⟨hsame, rfl⟩

/-- Both look up the email of the same user. -/
private theorem get (h : db.SameButTokens env db') (k : Bytea) :
    SameExcept (ActiveSession.SameButTokens env) (db.getUserSession now k) (db'.getUserSession now k) := by
  rcases h.sessionOf k with ⟨hs, hs'⟩ | ⟨s, s', hs, hs', hsame⟩
  · rw [getUserSession_none now hs, getUserSession_none now hs']
    exact .error _
  · obtain ⟨u, hu, hget⟩ := getUserSession_some now hs
    obtain ⟨u', hu', hget'⟩ := getUserSession_some now hs'
    rw [hsame.column UserSession.userId fun _ _ _ => rfl, h.identity, hu'] at hu
    cases hu
    rw [hget, hget', hsame.check now]
    cases s'.check now with
    | error e => exact .error e
    | ok _ => exact .ok (hsame.active _)

private theorem touch (h : db.SameButTokens env db') (k : Bytea) (idleTtl : Int) :
    SameOutcome env Eq ((SessionCall.touch k idleTtl).exec db now) ((SessionCall.touch k idleTtl).exec db' now) := by
  simp only [SessionCall.exec, touchUserSession]
  rcases h.sessionOf k with ⟨hs, hs'⟩ | ⟨s, s', hs, hs', hsame⟩
  · rw [hs, hs']
    exact ⟨h, rfl⟩
  · rw [hs, hs']
    simp only [hsame.check now]
    cases s'.check now with
    | error e => exact ⟨h, rfl⟩
    | ok _ =>
      have hslid := hsame.slide now idleTtl
      refine ⟨h.update (fun _ _ hr => hr.slide now idleTtl) fun r r' hr => ?_, ?_⟩
      · rw [hr.id, hsame.id]
      · exact congrArg SessionReply.touched (hslid.column UserSession.idleExpiresAt fun _ _ _ => rfl)

private theorem rotate (h : db.SameButTokens env db') {a a' : RotateArgs} (ha : a.SameButTokens env a') (id : Uuid) :
    SameOutcome env Eq ((SessionCall.rotate id a).exec db now) ((SessionCall.rotate id a').exec db' now) := by
  have hold : a.oldTokenHash = a'.oldTokenHash := by cases ha; rfl
  simp only [SessionCall.exec, rotateUserSession, hold]
  rcases h.sessionOf a'.oldTokenHash with ⟨hs, hs'⟩ | ⟨s, s', hs, hs', hsame⟩
  · rw [hs, hs']
    exact ⟨h, rfl⟩
  · rw [hs, hs']
    simp only [hsame.check now]
    cases s'.check now with
    | error e => exact ⟨h, rfl⟩
    | ok _ =>
      have hrow := ha.row id now hsame
      rcases (h.insert hrow).elim with ⟨e, he, he'⟩ | ⟨d, d', hd, hd', hins⟩
      · simp only [he, he']
        exact ⟨h, rfl⟩
      · simp only [hd, hd']
        refine ⟨hins.update (fun _ _ hr => hr.revoke now) fun r r' hr => ?_, ?_⟩
        · rw [hr.id, hsame.id]
        · exact congrArg SessionReply.created hrow.created

private theorem revoke (h : db.SameButTokens env db') (k : Bytea) :
    SameOutcome env Eq ((SessionCall.revoke k).exec db now) ((SessionCall.revoke k).exec db' now) := by
  refine ⟨h.update (fun _ _ hr => hr.revoke now) fun r r' hr => ?_, rfl⟩
  exact hr.column (fun s => s.tokenHash == k && s.revokedAt.isNone) fun _ _ _ => rfl

private theorem revokeAll (h : db.SameButTokens env db') (userId tenantId : Uuid) :
    SameOutcome env Eq ((SessionCall.revokeAll userId tenantId).exec db now)
      ((SessionCall.revokeAll userId tenantId).exec db' now) := by
  have hcond : ∀ r r', r.SameButTokens env r' →
      UserSession.revocable userId tenantId now r = UserSession.revocable userId tenantId now r' :=
    fun r r' hr => hr.column (UserSession.revocable userId tenantId now) fun _ _ _ => rfl
  refine ⟨h.update (fun _ _ hr => hr.revoke now) hcond, ?_⟩
  have hcount := congrArg (List.countP id) (h.map_eq _ hcond)
  rw [List.countP_map, List.countP_map] at hcount
  exact congrArg SessionReply.revokedCount hcount

end Database.SameButTokens

end Functions

/-! ### The session repository -/

inductive RepositoryCall.SameButTokens : RepositoryCall → RepositoryCall → Prop where
  | same (call : RepositoryCall) : SameButTokens call call
  | create (p : CreateParams) {a a' r r' : String} (ha : SameToken a a') (hr : SameToken r r') :
      SameButTokens (.create { p with accessToken := a, refreshToken := r })
        (.create { p with accessToken := a', refreshToken := r' })
  | rotate (p : RotateParams) {a a' r r' : String} (ha : SameToken a a') (hr : SameToken r r') :
      SameButTokens (.rotate { p with accessToken := a, refreshToken := r })
        (.rotate { p with accessToken := a', refreshToken := r' })

inductive ActiveSessionDTO.SameButTokens : ActiveSessionDTO → ActiveSessionDTO → Prop where
  | mk (dto : ActiveSessionDTO) {a a' r r' : String} (ha : SameToken a a') (hr : SameToken r r') :
      SameButTokens { dto with gotrueAccessToken := a, gotrueRefreshToken := r }
        { dto with gotrueAccessToken := a', gotrueRefreshToken := r' }

inductive RepositoryAnswer.SameButTokens : RepositoryAnswer → RepositoryAnswer → Prop where
  | same (answer : RepositoryAnswer) : SameButTokens answer answer
  | session {dto dto' : ActiveSessionDTO} (h : dto.SameButTokens dto') : SameButTokens (.session dto) (.session dto')

namespace AdapterEnv

variable {env : AdapterEnv} {P : Int → Prop} {db db' : Database}

/-- Sessions that are the same but tokens are read as such. -/
private theorem read_session_same {d d' : ActiveSession} (h : d.SameButTokens env d') :
    RepositoryAnswer.SameButTokens (.of .session (callEnvelope (env.envelope (.session d)) >>= env.activeDTO))
      (.of .session (callEnvelope (env.envelope (.session d')) >>= env.activeDTO)) := by
  cases h with
  | @mk d a a' r r' ha hr =>
    rcases ha.decrypt.elim with ⟨e, he, he'⟩ | ⟨t, t', ht, ht', htok⟩
    · rw [read_session_access he, read_session_access he']
      exact .same _
    · rcases hr.decrypt.elim with ⟨e, he, he'⟩ | ⟨u, u', hu, hu', hutok⟩
      · rw [read_session_refresh ht he, read_session_refresh ht' he']
        exact .same _
      · rw [read_session_decrypted ht hu, read_session_decrypted ht' hu']
        dsimp only
        -- the times are the same in both, and are read before the session is built
        cases optionalField (datetimeField env.parseDatetime) (some (.ofOption env.timestamp d.gotrueExpiresAt)) with
        | error e => exact .same _
        | ok gotrueExpiresAt =>
          cases datetimeField env.parseDatetime (env.timestamp d.absoluteExpiresAt) with
          | error e => exact .same _
          | ok absoluteExpiresAt =>
            cases datetimeField env.parseDatetime (env.timestamp d.idleExpiresAt) with
            | error e => exact .same _
            | ok idleExpiresAt =>
              exact .session (.mk ⟨uuidText d.sessionInternalId, uuidText d.userId, uuidText d.tenantId,
                d.email, t, u, gotrueExpiresAt, absoluteExpiresAt, idleExpiresAt⟩ htok hutok)

private theorem query_same {now : Int} {call call' : SessionCall} {α : Type}
    (h : SameOutcome env Eq (call.exec db now) (call'.exec db' now))
    (read : PyDict String Json → Except RepositoryError α) (answer : α → RepositoryAnswer) :
    SameOutcome env RepositoryAnswer.SameButTokens (env.query db now call read answer)
      (env.query db' now call' read answer) := by
  obtain ⟨hdb, hreply⟩ := h
  refine ⟨hdb, ?_⟩
  show RepositoryAnswer.SameButTokens (.of answer (callEnvelope (env.envelope (call.exec db now).2) >>= read)) _
  rw [hreply]
  exact .same _

/-- A call of the session repository keeps the databases the same but tokens, and so are its answers. -/
theorem exec_same (henv : env.LawfulOn P) (h : db.SameButTokens env db') {call call' : RepositoryCall}
    (hcall : call.SameButTokens call') (now : Int) (draws : Draws) :
    SameOutcome env RepositoryAnswer.SameButTokens (env.exec db now draws call) (env.exec db' now draws call') := by
  have hcreate : ∀ (p : CreateParams) {a a' r r' : String}, SameToken a a' → SameToken r r' →
      SameOutcome env RepositoryAnswer.SameButTokens
        (env.exec db now draws (.create { p with accessToken := a, refreshToken := r }))
        (env.exec db' now draws (.create { p with accessToken := a', refreshToken := r' })) := by
    intro p a a' r r' ha hr
    unfold exec sessionCall
    dsimp only
    cases parseUuid p.userId with
    | none => exact ⟨h, .same _⟩
    | some userId =>
      cases parseUuid p.tenantId with
      | none => exact ⟨h, .same _⟩
      | some tenantId =>
        by_cases hua : ∀ text ∈ p.userAgent, Storable text
        · simp only [if_pos hua]
          refine query_same (h.create ?_ draws.rowId) env.createdDTO .created
          exact .mk (env.createArgs now draws p userId tenantId) (encrypt_same henv ha _) (encrypt_same henv hr _)
        · simp only [if_neg hua]
          exact ⟨h, .same _⟩
  have hrotate : ∀ (p : RotateParams) {a a' r r' : String}, SameToken a a' → SameToken r r' →
      SameOutcome env RepositoryAnswer.SameButTokens
        (env.exec db now draws (.rotate { p with accessToken := a, refreshToken := r }))
        (env.exec db' now draws (.rotate { p with accessToken := a', refreshToken := r' })) := by
    intro p a a' r r' ha hr
    refine query_same (h.rotate ?_ draws.rowId) env.createdDTO .created
    exact .mk (env.rotateArgs now draws p) (encrypt_same henv ha _) (encrypt_same henv hr _)
  -- a token that the call brings is only encrypted; the other calls bring none
  cases hcall with
  | create p ha hr => exact hcreate p ha hr
  | rotate p ha hr => exact hrotate p ha hr
  | same =>
    cases call with
    | create p => exact hcreate p (.refl p.accessToken) (.refl p.refreshToken)
    | rotate p => exact hrotate p (.refl p.accessToken) (.refl p.refreshToken)
    | touch token idleTtlSeconds => exact query_same (h.touch _ _) _ _
    | revoke token => exact query_same (h.revoke _) _ _
    | revokeAll userId tenantId =>
      unfold exec sessionCall
      dsimp only
      cases parseUuid userId with
      | none => exact ⟨h, .same _⟩
      | some userId =>
        cases parseUuid tenantId with
        | none => exact ⟨h, .same _⟩
        | some tenantId => exact query_same (h.revokeAll _ _) _ _
    | get token =>
      have hget : ∀ (db : Database) (reply : SessionReply),
          (SessionCall.get (env.hashSessionToken token)).exec db now = (db, reply) →
            env.exec db now draws (.get token) =
            (db, .of .session (callEnvelope (env.envelope reply) >>= env.activeDTO)) := fun _ _ => Agree.query_eq
      rcases (h.get (env.hashSessionToken token)).elim with ⟨e, he, he'⟩ | ⟨d, d', hd, hd', hsame⟩
      · rw [hget db (.failed e) (by rw [SessionCall.exec, he]; rfl),
          hget db' (.failed e) (by rw [SessionCall.exec, he']; rfl)]
        exact ⟨h, .same _⟩
      · rw [hget db (.session d) (by rw [SessionCall.exec, hd]; rfl),
          hget db' (.session d') (by rw [SessionCall.exec, hd']; rfl)]
        exact ⟨h, read_session_same hsame⟩

end AdapterEnv

end CleanBackend
