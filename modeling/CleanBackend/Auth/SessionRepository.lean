import CleanBackend.Lib.Encoding
import CleanBackend.Lib.PyDict

/-!
# The session repository port

`SessionRepositoryProtocol` of `auth/session_repository.py`: its calls, what they return and raise, and
`FakeSessionRepository`, the in-memory implementation.  A call runs at one value `now` of the clock.  Python datetimes
are integers, in microseconds, and a sum that leaves their range is an `OverflowError`; the generated internal id is
an argument.
-/

namespace CleanBackend

/-! ### Calls and answers -/

structure ActiveSessionDTO where
  sessionInternalId : String
  userId : String
  tenantId : String
  email : Option String
  gotrueAccessToken : String
  gotrueRefreshToken : String
  gotrueExpiresAt : Option Int
  absoluteExpiresAt : Int
  idleExpiresAt : Int
  deriving DecidableEq, Repr

structure CreatedSessionDTO where
  sessionInternalId : String
  absoluteExpiresAt : Int
  idleExpiresAt : Int
  deriving DecidableEq, Repr

/-- What a repository call may raise. -/
inductive RepositoryError where
  | invalidSession (dbCode : String)
  | sessionExpired
  | identityMapping (dbCode : String)
  | databaseResult (message : String) (code : Option String)
  | conflict (constraint : String)
  | databaseOperation (errorType sqlstate : String)
  | valueError
  | keyError (key : String)
  | attributeError
  | overflowError
  | decryptFailed
  deriving DecidableEq, Repr

/-- `raise_for_db_code` -/
def raiseForDbCode (code : Option String) : RepositoryError :=
  match code with
  | some "SESSION_NOT_FOUND" => .invalidSession "SESSION_NOT_FOUND"
  | some "SESSION_REVOKED" => .invalidSession "SESSION_REVOKED"
  | some "SESSION_EXPIRED" => .sessionExpired
  | some "TENANT_NOT_FOUND" => .identityMapping "TENANT_NOT_FOUND"
  | some "USER_NOT_IN_TENANT" => .identityMapping "USER_NOT_IN_TENANT"
  | code => .databaseResult "Session function reported an unexpected error" code

structure CreateParams where
  sessionToken : String
  userId : String
  tenantId : String
  accessToken : String
  refreshToken : String
  gotrueExpiresAt : Option Int
  absoluteTtlSeconds : Int
  idleTtlSeconds : Int
  userAgent : Option String
  ip : Option String
  deriving DecidableEq, Repr

structure RotateParams where
  oldSessionToken : String
  newSessionToken : String
  accessToken : String
  refreshToken : String
  gotrueExpiresAt : Option Int
  idleTtlSeconds : Int
  deriving DecidableEq, Repr

inductive RepositoryCall where
  | create (params : CreateParams)
  | get (sessionToken : String)
  | touch (sessionToken : String) (idleTtlSeconds : Int)
  | rotate (params : RotateParams)
  | revoke (sessionToken : String)
  | revokeAll (userId tenantId : String)
  deriving DecidableEq, Repr

inductive RepositoryAnswer where
  | created (dto : CreatedSessionDTO)
  | session (dto : ActiveSessionDTO)
  | touched (idleExpiresAt : Int)
  | revoked
  | revokedCount (count : Int)
  | raised (error : RepositoryError)
  deriving DecidableEq, Repr

def RepositoryAnswer.of {α : Type} (answer : α → RepositoryAnswer) : Except RepositoryError α → RepositoryAnswer
  | .ok value => answer value
  | .error e => .raised e

/-- The token a call brings into the store. -/
def RepositoryCall.newToken : RepositoryCall → Option String
  | create params => some params.sessionToken
  | rotate params => some params.newSessionToken
  | _ => none

/-- The token a call looks up. -/
def RepositoryCall.oldToken : RepositoryCall → Option String
  | get token | touch token _ | revoke token => some token
  | rotate params => some params.oldSessionToken
  | _ => none

/-- `timedelta(seconds=…)` -/
def timedelta (seconds : Int) : Int := seconds * 1000000

/-- From `datetime.min` to `datetime.max`, in UTC. -/
def InDatetimeRange (t : Int) : Prop := -62135596800000000 ≤ t ∧ t ≤ 253402300799999999

instance (t : Int) : Decidable (InDatetimeRange t) := inferInstanceAs (Decidable (_ ∧ _))

/-- `now + timedelta(seconds=…)` -/
def datetimeAfter (now seconds : Int) : Except RepositoryError Int :=
  if InDatetimeRange (now + timedelta seconds) then .ok (now + timedelta seconds) else .error .overflowError

theorem datetimeAfter_inRange {now seconds : Int} (h : InDatetimeRange (now + timedelta seconds)) :
    datetimeAfter now seconds = .ok (now + timedelta seconds) := if_pos h

theorem datetimeAfter_overflow {now seconds : Int} (h : ¬ InDatetimeRange (now + timedelta seconds)) :
    datetimeAfter now seconds = .error .overflowError := if_neg h

/-! ### The in-memory repository -/

structure StoredSession where
  internalId : String
  userId : String
  tenantId : String
  accessToken : String
  refreshToken : String
  gotrueExpiresAt : Option Int
  absoluteExpiresAt : Int
  idleExpiresAt : Int
  revokedAt : Option Int
  deriving DecidableEq, Repr

structure FakeSessionRepository where
  sessions : PyDict String StoredSession
  emails : PyDict String String
  deriving DecidableEq, Repr

namespace FakeSessionRepository

def create (r : FakeSessionRepository) (now : Int) (internalId : BitVec 128) (p : CreateParams) :
    FakeSessionRepository × Except RepositoryError CreatedSessionDTO :=
  match datetimeAfter now p.absoluteTtlSeconds, datetimeAfter now p.idleTtlSeconds with
  | .ok absolute, .ok idle =>
    let stored : StoredSession :=
      { internalId := uuidText internalId
        userId := p.userId
        tenantId := p.tenantId
        accessToken := p.accessToken
        refreshToken := p.refreshToken
        gotrueExpiresAt := p.gotrueExpiresAt
        absoluteExpiresAt := absolute
        idleExpiresAt := min idle absolute
        revokedAt := none }
    ({ r with sessions := r.sessions.set p.sessionToken stored },
      .ok ⟨stored.internalId, stored.absoluteExpiresAt, stored.idleExpiresAt⟩)
  | .error e, _ | .ok _, .error e => (r, .error e)

/-- `_active` -/
def active (r : FakeSessionRepository) (now : Int) (sessionToken : String) : Except RepositoryError StoredSession :=
  match r.sessions.get sessionToken with
  | none => .error (.invalidSession "SESSION_NOT_FOUND")
  | some stored =>
    if stored.revokedAt.isSome then .error (.invalidSession "SESSION_REVOKED")
    else if stored.absoluteExpiresAt ≤ now ∨ stored.idleExpiresAt ≤ now then .error .sessionExpired
    else .ok stored

def get (r : FakeSessionRepository) (now : Int) (sessionToken : String) : Except RepositoryError ActiveSessionDTO :=
  (r.active now sessionToken).map fun stored =>
    { sessionInternalId := stored.internalId
      userId := stored.userId
      tenantId := stored.tenantId
      email := r.emails.get stored.userId
      gotrueAccessToken := stored.accessToken
      gotrueRefreshToken := stored.refreshToken
      gotrueExpiresAt := stored.gotrueExpiresAt
      absoluteExpiresAt := stored.absoluteExpiresAt
      idleExpiresAt := stored.idleExpiresAt }

def touch (r : FakeSessionRepository) (now : Int) (sessionToken : String) (idleTtlSeconds : Int) :
    FakeSessionRepository × Except RepositoryError Int :=
  match r.active now sessionToken with
  | .error e => (r, .error e)
  | .ok stored =>
    match datetimeAfter now idleTtlSeconds with
    | .error e => (r, .error e)
    | .ok idle =>
      let idle := min idle stored.absoluteExpiresAt
      ({ r with sessions := r.sessions.set sessionToken { stored with idleExpiresAt := idle } }, .ok idle)

def rotate (r : FakeSessionRepository) (now : Int) (internalId : BitVec 128) (p : RotateParams) :
    FakeSessionRepository × Except RepositoryError CreatedSessionDTO :=
  match r.active now p.oldSessionToken with
  | .error e => (r, .error e)
  | .ok old =>
    match datetimeAfter now p.idleTtlSeconds with
    | .error e => (r, .error e)
    | .ok idle =>
      let new : StoredSession :=
        { internalId := uuidText internalId
          userId := old.userId
          tenantId := old.tenantId
          accessToken := p.accessToken
          refreshToken := p.refreshToken
          gotrueExpiresAt := p.gotrueExpiresAt
          absoluteExpiresAt := old.absoluteExpiresAt
          idleExpiresAt := min idle old.absoluteExpiresAt
          revokedAt := none }
      let sessions := r.sessions.set p.oldSessionToken { old with revokedAt := some now }
      ({ r with sessions := sessions.set p.newSessionToken new },
        .ok ⟨new.internalId, new.absoluteExpiresAt, new.idleExpiresAt⟩)

def revoke (r : FakeSessionRepository) (now : Int) (sessionToken : String) : FakeSessionRepository :=
  match r.sessions.get sessionToken with
  | none => r
  | some stored =>
    if stored.revokedAt.isNone then
      { r with sessions := r.sessions.set sessionToken { stored with revokedAt := some now } }
    else r

/-- The `if` of the loop of `revoke_all`. -/
def revocable (userId tenantId : String) (now : Int) (stored : StoredSession) : Bool :=
  stored.userId == userId && stored.tenantId == tenantId && stored.revokedAt.isNone &&
    decide (now < stored.absoluteExpiresAt) && decide (now < stored.idleExpiresAt)

def revokeAll (r : FakeSessionRepository) (now : Int) (userId tenantId : String) : FakeSessionRepository × Nat :=
  let cond := revocable userId tenantId now
  ({ r with
      sessions := r.sessions.map fun e => if cond e.2 then (e.1, { e.2 with revokedAt := some now }) else e },
    r.sessions.countP fun e => cond e.2)

/-- The answer of a call. -/
def exec (r : FakeSessionRepository) (now : Int) (internalId : BitVec 128) :
    RepositoryCall → FakeSessionRepository × RepositoryAnswer
  | .create p =>
    let (r', result) := r.create now internalId p
    (r', .of .created result)
  | .get token => (r, .of .session (r.get now token))
  | .touch token idleTtlSeconds =>
    let (r', result) := r.touch now token idleTtlSeconds
    (r', .of .touched result)
  | .rotate p =>
    let (r', result) := r.rotate now internalId p
    (r', .of .created result)
  | .revoke token => (r.revoke now token, .revoked)
  | .revokeAll userId tenantId =>
    let (r', count) := r.revokeAll now userId tenantId
    (r', .revokedCount count)

end FakeSessionRepository

end CleanBackend
