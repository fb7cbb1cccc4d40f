import CleanBackend.Auth.SessionRepository
import CleanBackend.Database.SessionFunctions
import CleanBackend.Lib.Json
import Mathlib.Algebra.Group.Int.Defs

/-!
# The PostgreSQL session repository

`AsyncpgSessionRepository` over the session functions: tokens go out as `sha256` digests and Fernet ciphertexts, the
functions answer with the jsonb envelope of `app.ok` and `app.error`, and the adapter turns that into a DTO or an
exception.  What the repository does not contain (`hashlib`, Fernet, the texts of `timestamptz` values and their
parsers, `ipaddress`, the session time zone) is an `AdapterEnv`.
-/

namespace CleanBackend

/-- What the adapter stands on.  Fernet draws an IV and a time for each encryption. -/
structure AdapterEnv where
  sha256 : Bytea → Bytea
  fernetEncrypt : (draw : Bytea) → Bytea → Bytea
  fernetDecrypt : Bytea → Option Bytea
  timestamptzText : Int → String
  parseDatetime : String → Option Int
  fromisoformat : String → Option Int
  parseIp : String → Option String
  /-- The time from `now` to `now() + interval`, where asyncpg makes the interval of a `timedelta` of `seconds`: its
  days are calendar days of the session time zone. -/
  intervalLength : (now seconds : Int) → Int

/-- What the adapter relies on, for the datetimes of `P`. -/
structure AdapterEnv.LawfulOn (env : AdapterEnv) (P : Int → Prop) : Prop where
  sha256_length : ∀ data, (env.sha256 data).length = 32
  decrypt_encrypt : ∀ draw data, env.fernetDecrypt (env.fernetEncrypt draw data) = some data
  parseDatetime_text : ∀ t, P t → env.parseDatetime (env.timestamptzText t) = some t
  fromisoformat_text : ∀ t, P t → env.fromisoformat (env.timestamptzText t) = some t

theorem AdapterEnv.LawfulOn.mono {env : AdapterEnv} {P Q : Int → Prop} (h : env.LawfulOn P) (hPQ : ∀ t, Q t → P t) :
    env.LawfulOn Q where
  sha256_length := h.sha256_length
  decrypt_encrypt := h.decrypt_encrypt
  parseDatetime_text t ht := h.parseDatetime_text t (hPQ t ht)
  fromisoformat_text t ht := h.fromisoformat_text t (hPQ t ht)

/-- The datetimes of a session are in `P`. -/
structure TimesIn (P : Int → Prop) (gotrueExpiresAt : Option Int) (absoluteExpiresAt idleExpiresAt : Int) : Prop where
  gotrueExpiresAt : ∀ t ∈ gotrueExpiresAt, P t
  absoluteExpiresAt : P absoluteExpiresAt
  idleExpiresAt : P idleExpiresAt

theorem TimesIn.unbounded {gotrueExpiresAt : Option Int} {absoluteExpiresAt idleExpiresAt : Int} :
    TimesIn (fun _ => True) gotrueExpiresAt absoluteExpiresAt idleExpiresAt :=
  ⟨fun _ _ => trivial, trivial, trivial⟩

/-- What the adapter relies on, the datetimes being unbounded. -/
structure AdapterEnv.Lawful (env : AdapterEnv) : Prop extends env.LawfulOn fun _ => True where
  intervalLength_pos : ∀ now seconds, 0 < seconds → 0 < env.intervalLength now seconds

/-- What a call draws: the generated row id and the randomness of its two encryptions. -/
structure Draws where
  rowId : Uuid
  access : Bytea
  refresh : Bytea
  deriving DecidableEq, Repr

/-! ### The envelope -/

def ErrorCode.text : ErrorCode → String
  | sessionNotFound => "SESSION_NOT_FOUND"
  | sessionRevoked => "SESSION_REVOKED"
  | sessionExpired => "SESSION_EXPIRED"
  | tenantNotFound => "TENANT_NOT_FOUND"
  | userNotInTenant => "USER_NOT_IN_TENANT"
  | identityNotFound => "IDENTITY_NOT_FOUND"
  | noActiveTenant => "NO_ACTIVE_TENANT"

/-- `app.ok` -/
def appOk (data : Json) : Json :=
  .obj [("success", .bool true), ("data", data), ("error", .null), ("meta", .obj [])]

/-- `app.error` -/
def appError (e : DbError) : Json :=
  .obj [("success", .bool false), ("data", .null),
    ("error", .obj [("code", .str e.code.text), ("message", .str e.message), ("details", .obj [])]),
      ("meta", .obj [])]

def Json.ofOption {α : Type} (f : α → Json) : Option α → Json
  | none => .null
  | some a => f a

/-- `bool(value)` -/
def Json.truthy : Json → Bool
  | .null => false
  | .bool b => b
  | .num m _ => m != 0
  | .str s => s != ""
  | .arr items => !items.isEmpty
  | .obj entries => !entries.isEmpty

namespace AdapterEnv

variable (env : AdapterEnv)

/-- A `timestamptz` inside jsonb. -/
def timestamp (t : Int) : Json := .str (env.timestamptzText t)

/-- The `jsonb_build_object` of `create_user_session` and `rotate_user_session`. -/
def createdJson (d : CreatedSession) : Json :=
  .obj [("session_internal_id", .str (uuidText d.sessionInternalId)),
    ("absolute_expires_at", env.timestamp d.absoluteExpiresAt), ("idle_expires_at", env.timestamp d.idleExpiresAt)]

/-- The `jsonb_build_object` of `get_user_session`. -/
def activeJson (d : ActiveSession) : Json :=
  .obj [("session_internal_id", .str (uuidText d.sessionInternalId)), ("user_id", .str (uuidText d.userId)),
    ("tenant_id", .str (uuidText d.tenantId)), ("email", .ofOption .str d.email),
    ("gotrue_access_token", .str (encodeHex d.gotrueAccessToken)),
    ("gotrue_refresh_token", .str (encodeHex d.gotrueRefreshToken)),
    ("gotrue_expires_at", .ofOption env.timestamp d.gotrueExpiresAt),
    ("absolute_expires_at", env.timestamp d.absoluteExpiresAt), ("idle_expires_at", env.timestamp d.idleExpiresAt)]

/-- What the database sends back for a reply of a session function. -/
def envelope : SessionReply → Except SqlError Json
  | .created d => .ok (appOk (env.createdJson d))
  | .session d => .ok (appOk (env.activeJson d))
  | .touched idleExpiresAt => .ok (appOk (.obj [("idle_expires_at", env.timestamp idleExpiresAt)]))
  | .revoked => .ok (appOk (.obj [("revoked", .bool true)]))
  | .revokedCount count => .ok (appOk (.obj [("revoked_count", .num count 0)]))
  | .failed e => .ok (appError e)
  | .aborted e => .error e

end AdapterEnv

/-- What `map_asyncpg_error` makes of the error for a NUL in a text. -/
def untranslatable : RepositoryError := .databaseOperation "CharacterNotInRepertoireError" "22021"

/-- `map_asyncpg_error`, on the violations a session function can meet. -/
def mapAsyncpgError : SqlError → RepositoryError
  | .uniqueViolation c => .conflict c
  | .checkViolation _ => .databaseOperation "CheckViolationError" "23514"
  | .foreignKeyViolation _ => .databaseOperation "ForeignKeyViolationError" "23503"

/-- `_call`: the `data` of the envelope, or the mapped exception. -/
def callEnvelope : Except SqlError Json → Except RepositoryError (PyDict String Json)
  | .error e => .error (mapAsyncpgError e)
  | .ok (.obj envelope) =>
    if ((PyDict.get envelope "success").elim false Json.truthy) then
      match PyDict.get envelope "data" with
      | some (.obj data) => .ok data
      | _ => .ok []
    else
      let error := (PyDict.get envelope "error").getD .null
      match if error.truthy then error else .obj [] with
      | .obj error => .error (raiseForDbCode ((PyDict.get error "code").bind Json.str?))
      | _ => .error .attributeError
  | .ok _ => .error (.databaseResult "Session function returned a non-envelope result" none)

/-! ### Reading the data -/

/-- `data[key]` -/
def item (data : PyDict String Json) (key : String) : Except RepositoryError Json :=
  match PyDict.get data key with
  | some value => .ok value
  | none => .error (.keyError key)

/-- A `str` field of a DTO. -/
def strField : Json → Except RepositoryError String
  | .str s => .ok s
  | _ => .error .valueError

/-- A `datetime` field; the functions send texts. -/
def datetimeField (parse : String → Option Int) : Json → Except RepositoryError Int
  | .str s =>
    match parse s with
    | some t => .ok t
    | none => .error .valueError
  | _ => .error .valueError

/-- A `… | None` field with the default `None`, read by `data.get(key)`. -/
def optionalField {α : Type} (field : Json → Except RepositoryError α) :
    Option Json → Except RepositoryError (Option α)
  | none | some .null => .ok none
  | some value => (field value).map some

/-- `int(value)` of a number. -/
def intOf : Json → Except RepositoryError Int
  | .num m e => .ok (if 0 ≤ e then m * 10 ^ e.toNat else m.tdiv (10 ^ (-e).toNat))
  | _ => .error .valueError

namespace AdapterEnv

variable (env : AdapterEnv)

/-- `hash_session_token` -/
def hashSessionToken (token : String) : Bytea := env.sha256 (utf8 token)

/-- `TokenCipher.encrypt` -/
def encrypt (draw : Bytea) (plaintext : String) : Bytea := env.fernetEncrypt draw (utf8 plaintext)

/-- `TokenCipher.decrypt` -/
def decrypt (ciphertext : Bytea) : Except RepositoryError String :=
  match env.fernetDecrypt ciphertext with
  | none => .error .decryptFailed
  | some data =>
    match decodeUtf8 data with
    | none => .error .valueError
    | some text => .ok text

/-- `self._cipher.decrypt(bytes.fromhex(value))` -/
def decryptHex (value : Json) : Except RepositoryError String := do
  let text ← strField value
  match bytesFromHex text with
  | none => .error .valueError
  | some ciphertext => env.decrypt ciphertext

/-- `CreatedSessionDTO(**data)` -/
def createdDTO (data : PyDict String Json) : Except RepositoryError CreatedSessionDTO := do
  let sessionInternalId ← strField ((PyDict.get data "session_internal_id").getD .null)
  let absoluteExpiresAt ← datetimeField env.parseDatetime ((PyDict.get data "absolute_expires_at").getD .null)
  let idleExpiresAt ← datetimeField env.parseDatetime ((PyDict.get data "idle_expires_at").getD .null)
  return ⟨sessionInternalId, absoluteExpiresAt, idleExpiresAt⟩

/-- The `ActiveSessionDTO(…)` of `get`. -/
def activeDTO (data : PyDict String Json) : Except RepositoryError ActiveSessionDTO := do
  let sessionInternalId ← item data "session_internal_id"
  let userId ← item data "user_id"
  let tenantId ← item data "tenant_id"
  let gotrueAccessToken ← env.decryptHex (← item data "gotrue_access_token")
  let gotrueRefreshToken ← env.decryptHex (← item data "gotrue_refresh_token")
  let absoluteExpiresAt ← item data "absolute_expires_at"
  let idleExpiresAt ← item data "idle_expires_at"
  return {
    sessionInternalId := ← strField sessionInternalId
    userId := ← strField userId
    tenantId := ← strField tenantId
    email := ← optionalField strField (PyDict.get data "email")
    gotrueAccessToken
    gotrueRefreshToken
    gotrueExpiresAt := ← optionalField (datetimeField env.parseDatetime) (PyDict.get data "gotrue_expires_at")
    absoluteExpiresAt := ← datetimeField env.parseDatetime absoluteExpiresAt
    idleExpiresAt := ← datetimeField env.parseDatetime idleExpiresAt }

/-! ### The methods -/

/-- `_call`, then what the method makes of the data. -/
def query {α : Type} (db : Database) (now : Int) (call : SessionCall)
    (read : PyDict String Json → Except RepositoryError α) (answer : α → RepositoryAnswer) :
    Database × RepositoryAnswer :=
  let (db', reply) := call.exec db now
  (db', .of answer (callEnvelope (env.envelope reply) >>= read))

/-- The arguments `create` passes. -/
def createArgs (now : Int) (draws : Draws) (p : CreateParams) (userId tenantId : Uuid) : CreateArgs where
  tokenHash := env.hashSessionToken p.sessionToken
  userId := userId
  tenantId := tenantId
  accessCt := env.encrypt draws.access p.accessToken
  refreshCt := env.encrypt draws.refresh p.refreshToken
  gotrueExpiresAt := p.gotrueExpiresAt
  absoluteTtl := env.intervalLength now p.absoluteTtlSeconds
  idleTtl := env.intervalLength now p.idleTtlSeconds
  userAgent := p.userAgent
  ip := p.ip.bind env.parseIp

/-- The arguments `rotate` passes. -/
def rotateArgs (now : Int) (draws : Draws) (p : RotateParams) : RotateArgs where
  oldTokenHash := env.hashSessionToken p.oldSessionToken
  newTokenHash := env.hashSessionToken p.newSessionToken
  accessCt := env.encrypt draws.access p.accessToken
  refreshCt := env.encrypt draws.refresh p.refreshToken
  gotrueExpiresAt := p.gotrueExpiresAt
  idleTtl := env.intervalLength now p.idleTtlSeconds

/-- The session function that a method runs.  `uuid.UUID` may refuse an id before, and PostgreSQL a text. -/
def sessionCall (now : Int) (draws : Draws) : RepositoryCall → Except RepositoryError SessionCall
  | .create p =>
    match parseUuid p.userId, parseUuid p.tenantId with
    | some userId, some tenantId =>
      if ∀ text ∈ p.userAgent, Storable text then
        .ok (.create draws.rowId (env.createArgs now draws p userId tenantId))
      else .error untranslatable
    | _, _ => .error .valueError
  | .get token => .ok (.get (env.hashSessionToken token))
  | .touch token idleTtlSeconds => .ok (.touch (env.hashSessionToken token) (env.intervalLength now idleTtlSeconds))
  | .rotate p => .ok (.rotate draws.rowId (env.rotateArgs now draws p))
  | .revoke token => .ok (.revoke (env.hashSessionToken token))
  | .revokeAll userId tenantId =>
    match parseUuid userId, parseUuid tenantId with
    | some userId, some tenantId => .ok (.revokeAll userId tenantId)
    | _, _ => .error .valueError

/-- The answer of a call of `AsyncpgSessionRepository`. -/
def exec (db : Database) (now : Int) (draws : Draws) (call : RepositoryCall) : Database × RepositoryAnswer :=
  match env.sessionCall now draws call with
  | .error e => (db, .raised e)
  | .ok c =>
    match call with
    | .create _ | .rotate _ => env.query db now c env.createdDTO .created
    | .get _ => env.query db now c env.activeDTO .session
    | .touch _ _ =>
      env.query db now c (fun data => item data "idle_expires_at" >>= datetimeField env.fromisoformat) .touched
    | .revoke _ => env.query db now c (fun _ => .ok ()) fun _ => .revoked
    | .revokeAll _ _ => env.query db now c (fun data => item data "revoked_count" >>= intOf) .revokedCount

section Calls

variable {env} {now : Int} {draws : Draws}

/-- A call runs its session function, or does nothing to the database. -/
theorem exec_db (db : Database) (call : RepositoryCall) :
    (env.exec db now draws call).1 =
      match env.sessionCall now draws call with
      | .error _ => db
      | .ok c => (c.exec db now).1 := by
  unfold exec
  cases env.sessionCall now draws call with
  | error e => rfl
  | ok c => cases call <;> rfl

theorem sessionCall_create {p : CreateParams} {c : SessionCall} (h : env.sessionCall now draws (.create p) = .ok c) :
    ∃ userId tenantId, parseUuid p.userId = some userId ∧ parseUuid p.tenantId = some tenantId ∧
      c = .create draws.rowId (env.createArgs now draws p userId tenantId) := by
  simp only [sessionCall] at h
  split at h
  · rename_i userId tenantId hu ht
    split at h
    · cases h
      exact ⟨userId, tenantId, hu, ht, rfl⟩
    · cases h
  · cases h

theorem sessionCall_revokeAll {u t : String} {c : SessionCall}
    (h : env.sessionCall now draws (.revokeAll u t) = .ok c) : ∃ userId tenantId, c = .revokeAll userId tenantId := by
  simp only [sessionCall] at h
  split at h
  · cases h
    exact ⟨_, _, rfl⟩
  · cases h

/-- The new row has the id that was drawn. -/
theorem sessionCall_newRowId {call : RepositoryCall} {c : SessionCall} (h : env.sessionCall now draws call = .ok c)
    {i : Uuid} (hi : c.newRowId = some i) : draws.rowId = i := by
  cases call with
  | create p =>
    obtain ⟨userId, tenantId, -, -, rfl⟩ := sessionCall_create h
    exact Option.some.inj hi
  | rotate p =>
    cases h
    exact Option.some.inj hi
  | get token | touch token ttl | revoke token =>
    cases h
    cases hi
  | revokeAll userId tenantId =>
    obtain ⟨_, _, rfl⟩ := sessionCall_revokeAll h
    cases hi

end Calls

end AdapterEnv

/-! ### What is sent is read back -/

private theorem callEnvelope_appOk (data : PyDict String Json) : callEnvelope (.ok (appOk (.obj data))) = .ok data :=
  rfl

theorem callEnvelope_appError (e : DbError) :
    callEnvelope (.ok (appError e)) = .error (raiseForDbCode (some e.code.text)) := by
  simp [callEnvelope, appError, PyDict.get_cons, Json.truthy, Json.str?]

namespace AdapterEnv

variable {env : AdapterEnv} {P : Int → Prop}

theorem decrypt_encrypt (h : env.LawfulOn P) (draw : Bytea) (text : String) :
    env.decrypt (env.encrypt draw text) = .ok text := by
  simp only [decrypt, encrypt, h.decrypt_encrypt, decodeUtf8_utf8]

private theorem decryptHex_encodeHex (ciphertext : Bytea) :
    env.decryptHex (.str (encodeHex ciphertext)) = env.decrypt ciphertext := by
  simp only [decryptHex, strField, bytesFromHex_encodeHex, bind, Except.bind]

private theorem datetimeField_timestamp {parse : String → Option Int} {t : Int}
    (hparse : parse (env.timestamptzText t) = some t) : datetimeField parse (env.timestamp t) = .ok t := by
  simp only [timestamp, datetimeField, hparse]

private theorem optionalField_timestamp (h : env.LawfulOn P) {t : Option Int} (ht : ∀ u ∈ t, P u) :
    optionalField (datetimeField env.parseDatetime) (some (.ofOption env.timestamp t)) = .ok t := by
  cases t with
  | none => rfl
  | some t =>
    simp only [Json.ofOption, timestamp, optionalField, datetimeField, h.parseDatetime_text t (ht t rfl)]
    rfl

theorem optionalField_str (text : Option String) :
    optionalField strField (some (.ofOption .str text)) = .ok text := by
  cases text <;> rfl

/-- The entries of `createdJson`, read back. -/
theorem read_created (h : env.LawfulOn P) {d : CreatedSession} (ha : P d.absoluteExpiresAt) (hi : P d.idleExpiresAt) :
    (callEnvelope (env.envelope (.created d)) >>= env.createdDTO) =
      .ok ⟨uuidText d.sessionInternalId, d.absoluteExpiresAt, d.idleExpiresAt⟩ := by
  simp only [envelope, createdJson, callEnvelope_appOk, bind, Except.bind, createdDTO, PyDict.get_cons]
  simp [strField, datetimeField_timestamp (h.parseDatetime_text _ ha),
    datetimeField_timestamp (h.parseDatetime_text _ hi), pure, Except.pure]

/-- The entries of `activeJson`, where both tokens decrypt. -/
theorem read_session_decrypted {d : ActiveSession} {access refresh : String}
    (ha : env.decrypt d.gotrueAccessToken = .ok access) (hr : env.decrypt d.gotrueRefreshToken = .ok refresh) :
    (callEnvelope (env.envelope (.session d)) >>= env.activeDTO) = (do
      let gotrueExpiresAt ←
        optionalField (datetimeField env.parseDatetime) (some (.ofOption env.timestamp d.gotrueExpiresAt))
      let absoluteExpiresAt ← datetimeField env.parseDatetime (env.timestamp d.absoluteExpiresAt)
      let idleExpiresAt ← datetimeField env.parseDatetime (env.timestamp d.idleExpiresAt)
      return ⟨uuidText d.sessionInternalId, uuidText d.userId, uuidText d.tenantId, d.email, access, refresh,
        gotrueExpiresAt, absoluteExpiresAt, idleExpiresAt⟩) := by
  simp only [envelope, activeJson, callEnvelope_appOk, bind, Except.bind, activeDTO, item, PyDict.get_cons]
  simp [strField, decryptHex_encodeHex, ha, hr, optionalField_str]

theorem read_session (h : env.LawfulOn P) {d : ActiveSession}
    (ht : TimesIn P d.gotrueExpiresAt d.absoluteExpiresAt d.idleExpiresAt) {access refresh : String}
    (ha : env.decrypt d.gotrueAccessToken = .ok access) (hr : env.decrypt d.gotrueRefreshToken = .ok refresh) :
    (callEnvelope (env.envelope (.session d)) >>= env.activeDTO) =
      .ok ⟨uuidText d.sessionInternalId, uuidText d.userId, uuidText d.tenantId, d.email, access, refresh,
        d.gotrueExpiresAt, d.absoluteExpiresAt, d.idleExpiresAt⟩ := by
  rw [read_session_decrypted ha hr, optionalField_timestamp h ht.gotrueExpiresAt,
    datetimeField_timestamp (h.parseDatetime_text _ ht.absoluteExpiresAt),
    datetimeField_timestamp (h.parseDatetime_text _ ht.idleExpiresAt)]
  rfl

/-- A session whose access token does not decrypt is not read. -/
theorem read_session_access {d : ActiveSession} {e : RepositoryError}
    (h : env.decrypt d.gotrueAccessToken = .error e) :
    (callEnvelope (env.envelope (.session d)) >>= env.activeDTO) = .error e := by
  simp only [envelope, activeJson, callEnvelope_appOk, bind, Except.bind, activeDTO, item, PyDict.get_cons]
  simp [decryptHex_encodeHex, h]

theorem read_session_refresh {d : ActiveSession} {access : String} {e : RepositoryError}
    (ha : env.decrypt d.gotrueAccessToken = .ok access) (hr : env.decrypt d.gotrueRefreshToken = .error e) :
    (callEnvelope (env.envelope (.session d)) >>= env.activeDTO) = .error e := by
  simp only [envelope, activeJson, callEnvelope_appOk, bind, Except.bind, activeDTO, item, PyDict.get_cons]
  simp [decryptHex_encodeHex, ha, hr]

theorem read_touched (h : env.LawfulOn P) {t : Int} (ht : P t) :
    (callEnvelope (env.envelope (.touched t)) >>= fun data =>
      item data "idle_expires_at" >>= datetimeField env.fromisoformat) = .ok t := by
  simp [envelope, callEnvelope_appOk, bind, Except.bind, item, PyDict.get_cons,
    datetimeField_timestamp (h.fromisoformat_text t ht)]

theorem read_revokedCount (count : Nat) :
    (callEnvelope (env.envelope (.revokedCount count)) >>= fun data => item data "revoked_count" >>= intOf) =
      .ok (count : Int) := by
  simp [envelope, callEnvelope_appOk, bind, Except.bind, item, PyDict.get_cons, intOf]

/-- An error of a session function. -/
theorem read_failed {α : Type} (e : DbError) (read : PyDict String Json → Except RepositoryError α) :
    (callEnvelope (env.envelope (.failed e)) >>= read) = .error (raiseForDbCode (some e.code.text)) := by
  rw [envelope, callEnvelope_appError]
  rfl

end AdapterEnv

end CleanBackend
