import CleanBackend.Database.SessionFunctions
import CleanBackend.Lib.Machine
import CleanBackend.Lib.ReadCommitted
import Mathlib.Logic.Function.Basic

/-!
# The session functions, statement by statement

The functions of `SessionFunctions` one SQL statement at a time, for any number of transactions in flight.  `now()` is
fixed when a transaction starts.  A statement reads the rows committed at that moment; an `UPDATE` or `SELECT … FOR
UPDATE` waits while another transaction holds its row and goes on with the committed version it then finds; an
`INSERT` waits for a pending row with its key.  Any transaction that has not finished may be aborted.

`SessionTxn.next` is the program (which effect the next statement of a transaction has), `SessionState.apply` the
engine (what an effect does to the rows and the transactions), and `sessionMachine` runs them in any order.
-/

namespace CleanBackend

/-- How far a transaction is. -/
inductive SessionPhase where
  | start
  /-- its statement found the row `id` in its snapshot and wants its lock -/
  | locking (id : Uuid)
  | inserting (new : UserSession) (old : Option UserSession)
  | revokingOld (old new : UserSession)
  /-- the `UPDATE` of `revoke_all_user_sessions`, with the rows of its snapshot still to visit -/
  | visiting (todo : List Uuid) (count : Nat)
  | returned (reply : SessionReply)
  | committed (reply : SessionReply)
  | rolledBack (cause : Option SqlError)
  deriving DecidableEq, Repr

def SessionPhase.finished : SessionPhase → Bool
  | committed _ | rolledBack _ => true
  | _ => false

/-- A transaction: its `now()`, its call, the row it has inserted and the transactions whose row lock it met. -/
structure SessionTxn where
  now : Int
  call : SessionCall
  phase : SessionPhase
  inserted : Option UserSession
  waitedFor : List Tid
  deriving DecidableEq, Repr

structure SessionState where
  ids : IdentityTables
  clock : Int
  sessions : Store Tid UserSession
  txns : Tid → Option SessionTxn

/-- The migrated database with no transaction yet. -/
def SessionState.init (ids : IdentityTables) (clock : Int) : SessionState := ⟨ids, clock, [], fun _ => none⟩

/-- What a statement does. -/
inductive SessionEffect where
  | goto (phase : SessionPhase)
  | wait (owner : Tid)
  | write (id : Uuid) (u : SessionUpdate) (phase : SessionPhase)
  | insert (new : UserSession) (phase : SessionPhase)
  | commit (reply : SessionReply)
  | rollback (cause : Option SqlError)

/-- `FOR UPDATE` takes the lock and leaves the row. -/
def SessionUpdate.forUpdate : SessionUpdate where
  set s := s
  id_eq _ := rfl
  tokenHash_eq _ := rfl
  userId_eq _ := rfl
  tenantId_eq _ := rfl
  rotatedFrom_eq _ := rfl
  idle_within_absolute _ h := h

/-- The `CHECK` constraints of a new row. -/
def UserSession.checkViolation (s : UserSession) : Option SqlError :=
  if s.absoluteExpiresAt < s.idleExpiresAt then some (.checkViolation "user_sessions_idle_within_absolute")
  else if s.tokenHash.length ≠ 32 then some (.checkViolation "user_sessions_token_hash_is_sha256")
  else none

/-- Its foreign keys. -/
def UserSession.fkeyViolation (ids : IdentityTables) (rows : List UserSession) (s : UserSession) :
    Option SqlError :=
  if s.userId ∉ ids.users.map User.id then some (.foreignKeyViolation "user_sessions_user_id_fkey")
  else if s.tenantId ∉ ids.tenants.map Tenant.id then some (.foreignKeyViolation "user_sessions_tenant_id_fkey")
  else
    match s.rotatedFrom with
    | none => none
    | some o =>
      if o ∈ rows.map UserSession.id then none else some (.foreignKeyViolation "user_sessions_rotated_from_fkey")

/-! ### The program -/

def SessionReply.ofGet : Envelope ActiveSession → SessionReply
  | .ok data => .session data
  | .error e => .failed e

/-- `UPDATE` and `SELECT … FOR UPDATE` on one row: wait for its lock, then go on with the version found. -/
def Store.onLock (s : Store Tid UserSession) (tid : Tid) (id : Uuid) (go : UserSession → Option SessionEffect) :
    Option SessionEffect :=
  match s.access UserSession.id tid id with
  | .absent => none
  | .free row | .mine row => go row
  | .heldBy owner => some (.wait owner)

/-- `INSERT`: the checks, the unique indexes (waiting for a pending duplicate), the foreign keys. -/
def Store.insertRow (s : Store Tid UserSession) (ids : IdentityTables) (tid : Tid) (new : UserSession)
    (old : Option UserSession) : Option SessionEffect :=
  match new.checkViolation with
  | some e => some (.rollback (some e))
  | none =>
    match s.clash UserSession.id tid new.id with
    | .waitFor _ => none
    | .duplicate => some (.rollback (some (.uniqueViolation "user_sessions_pkey")))
    | .none =>
      match s.clash UserSession.tokenHash tid new.tokenHash with
      | .waitFor _ => none
      | .duplicate => some (.rollback (some (.uniqueViolation "user_sessions_token_hash_key")))
      | .none =>
        match new.fkeyViolation ids s.rows, old with
        | some e, _ => some (.rollback (some e))
        | none, none => some (.insert new (.returned (.created new.created)))
        | none, some old => some (.insert new (.revokingOld old new))

namespace SessionTxn

/-- The first statement of each function, on the committed rows. -/
def begin (x : SessionTxn) (ids : IdentityTables) (rows : List UserSession) : SessionPhase :=
  match x.call with
  | .create id a =>
    if ¬ ids.activeTenant a.tenantId then .returned (.failed .tenantNotFound)
    else if ¬ ids.activeMember a.userId a.tenantId then .returned (.failed .userNotInTenant)
    else .inserting (a.row id x.now) none
  | .get h => .returned (.ofGet (getUserSession ids.users rows x.now h))
  | .touch h _ =>
    match findBy UserSession.tokenHash h rows with
    | none => .returned (.failed .sessionNotFound)
    | some r =>
      match r.check x.now with
      | .error e => .returned (.failed e)
      | .ok () => .locking r.id
  | .rotate _ a =>
    match findBy UserSession.tokenHash a.oldTokenHash rows with
    | none => .returned (.failed .sessionNotFound)
    | some r => .locking r.id
  | .revoke h =>
    match findBy UserSession.tokenHash h rows with
    | none => .returned .revoked
    | some r => if r.revokedAt.isSome then .returned .revoked else .locking r.id
  | .revokeAll u t => .visiting ((rows.filter (UserSession.revocable u t x.now)).map UserSession.id) 0

/-- What the statement does with the latest version of the row it wanted. -/
def onRow (x : SessionTxn) (id : Uuid) (row : UserSession) : Option SessionEffect :=
  match x.call with
  | .touch _ idleTtl =>
    let u := SessionUpdate.slide x.now idleTtl
    some (.write id u (.returned (.touched (u.set row).idleExpiresAt)))
  | .rotate newId a =>
    match row.check x.now with
    | .error e => some (.write id .forUpdate (.returned (.failed e)))
    | .ok () => some (.write id .forUpdate (.inserting (a.row newId x.now row) (some row)))
  | .revoke _ =>
    if row.revokedAt.isSome then some (.goto (.returned .revoked))
    else some (.write id (.revoke x.now) (.returned .revoked))
  | _ => none

/-- The next statement; the commit follows the last one. -/
def next (x : SessionTxn) (ids : IdentityTables) (s : Store Tid UserSession) (tid : Tid) : Option SessionEffect :=
  match x.phase with
  | .start => some (.goto (x.begin ids s.rows))
  | .locking id => s.onLock tid id (x.onRow id)
  | .inserting new old => s.insertRow ids tid new old
  -- the row is locked since the `FOR UPDATE`
  | .revokingOld old new => some (.write old.id (.revoke x.now) (.returned (.created new.created)))
  | .visiting [] count => some (.goto (.returned (.revokedCount count)))
  | .visiting (_ :: _) _ => none
  | .returned reply => some (.commit reply)
  | .committed _ | .rolledBack _ => none

/-- The scan of `revoke_all_user_sessions` comes to the row `id` of its snapshot; the `WHERE` is checked again. -/
def visit (x : SessionTxn) (s : Store Tid UserSession) (tid : Tid) (id : Uuid) : Option SessionEffect :=
  match x.call, x.phase with
  | .revokeAll u t, .visiting todo count =>
    if id ∈ todo then
      s.onLock tid id fun row =>
        if UserSession.revocable u t x.now row then
          some (.write id (.revoke x.now) (.visiting (todo.erase id) (count + 1)))
        else some (.goto (.visiting (todo.erase id) count))
    else none
  | _, _ => none

end SessionTxn

/-! ### The engine -/

/-- The rows after a statement of `tid`. -/
def Store.after (s : Store Tid UserSession) (tid : Tid) : SessionEffect → Store Tid UserSession
  | .goto _ | .wait _ => s
  | .write id u _ => s.write UserSession.id tid id u.set
  | .insert new _ => s.insert tid new
  | .commit _ => s.commit tid
  | .rollback _ => s.abort tid

/-- The transaction after its statement. -/
def SessionTxn.after (x : SessionTxn) : SessionEffect → SessionTxn
  | .goto phase | .write _ _ phase => { x with phase }
  | .wait owner => { x with waitedFor := owner :: x.waitedFor }
  | .insert new phase => { x with phase, inserted := some new }
  | .commit reply => { x with phase := .committed reply }
  | .rollback cause => { x with phase := .rolledBack cause, inserted := none }

def SessionState.put (s : SessionState) (tid : Tid) (x : SessionTxn) : SessionState :=
  { s with txns := Function.update s.txns tid (some x) }

def SessionState.apply (s : SessionState) (tid : Tid) (x : SessionTxn) (e : SessionEffect) : SessionState :=
  { s with sessions := s.sessions.after tid e }.put tid (x.after e)

inductive SessionAction where
  | tick (d : Nat)
  | start (tid : Tid) (call : SessionCall)
  | exec (tid : Tid)
  | visit (tid : Tid) (id : Uuid)
  | abort (tid : Tid)
  deriving DecidableEq, Repr

/-- Transactions on `user_sessions` in any order. -/
def sessionMachine : Machine SessionState SessionAction where
  step s
    | .tick d => some { s with clock := s.clock + d }
    | .start tid call =>
      match s.txns tid with
      | none => some (s.put tid ⟨s.clock, call, .start, none, []⟩)
      | some _ => none
    | .exec tid => (s.txns tid).bind fun x => (x.next s.ids s.sessions tid).map (s.apply tid x)
    | .visit tid id => (s.txns tid).bind fun x => (x.visit s.sessions tid id).map (s.apply tid x)
    | .abort tid =>
      (s.txns tid).bind fun x => if x.phase.finished then none else some (s.apply tid x (.rollback none))

/-! ### Sample calls -/

/-- A token hash. -/
def hashOf (n : UInt8) : Bytea := List.replicate 32 n

/-- A login of the member with the default TTLs of 30 days and 24 hours. -/
def loginArgs (token : UInt8) : CreateArgs :=
  ⟨hashOf token, 1, 1, [1], [2], none, 2592000000000, 86400000000, none, none⟩

def rotationArgs (old new : UInt8) : RotateArgs := ⟨hashOf old, hashOf new, [3], [4], none, 86400000000⟩

/-! ### What a statement can do -/

/-- `tid` gets the row `id` without waiting, and `row` is its latest version. -/
def Store.Latest (s : Store Tid UserSession) (tid : Tid) (id : Uuid) (row : UserSession) : Prop :=
  s.access UserSession.id tid id = .free row ∨ s.access UserSession.id tid id = .mine row

/-- The statements of the six functions, each with what it found and what it did. -/
inductive Statement (ids : IdentityTables) (s : Store Tid UserSession) (tid : Tid) (x : SessionTxn) :
    SessionEffect → Prop where
  | createFails {id a e} (hp : x.phase = .start) (hc : x.call = .create id a) :
      Statement ids s tid x (.goto (.returned (.failed e)))
  | creates {id a} (hp : x.phase = .start) (hc : x.call = .create id a) :
      Statement ids s tid x (.goto (.inserting (a.row id x.now) none))
  | gets {h} (hp : x.phase = .start) (hc : x.call = .get h) :
      Statement ids s tid x (.goto (.returned (.ofGet (getUserSession ids.users s.rows x.now h))))
  | touchFails {h ttl e} (hp : x.phase = .start) (hc : x.call = .touch h ttl) :
      Statement ids s tid x (.goto (.returned (.failed e)))
  | touchFinds {h ttl r} (hp : x.phase = .start) (hc : x.call = .touch h ttl)
      (hr : findBy UserSession.tokenHash h s.rows = some r) (hl : r.Live x.now) :
      Statement ids s tid x (.goto (.locking r.id))
  | rotateMisses {id a} (hp : x.phase = .start) (hc : x.call = .rotate id a) :
      Statement ids s tid x (.goto (.returned (.failed .sessionNotFound)))
  | rotateFinds {id a r} (hp : x.phase = .start) (hc : x.call = .rotate id a)
      (hr : findBy UserSession.tokenHash a.oldTokenHash s.rows = some r) :
      Statement ids s tid x (.goto (.locking r.id))
  | revokeMisses {h} (hp : x.phase = .start) (hc : x.call = .revoke h) :
      Statement ids s tid x (.goto (.returned .revoked))
  | revokeFinds {h r} (hp : x.phase = .start) (hc : x.call = .revoke h)
      (hr : findBy UserSession.tokenHash h s.rows = some r) (hu : r.revokedAt = none) :
      Statement ids s tid x (.goto (.locking r.id))
  | scans {u t} (hp : x.phase = .start) (hc : x.call = .revokeAll u t) :
      Statement ids s tid x
        (.goto (.visiting ((s.rows.filter (UserSession.revocable u t x.now)).map UserSession.id) 0))
  | waits {id owner} (hp : x.phase = .locking id) (ha : s.access UserSession.id tid id = .heldBy owner) :
      Statement ids s tid x (.wait owner)
  | touches {id h ttl row} (hp : x.phase = .locking id) (hc : x.call = .touch h ttl) (hl : s.Latest tid id row) :
      Statement ids s tid x (.write id (.slide x.now ttl)
        (.returned (.touched ((SessionUpdate.slide x.now ttl).set row).idleExpiresAt)))
  | rotateFails {id newId a row e} (hp : x.phase = .locking id) (hc : x.call = .rotate newId a)
      (hl : s.Latest tid id row) (he : row.check x.now = .error e) :
      Statement ids s tid x (.write id .forUpdate (.returned (.failed e)))
  | rotateLocks {id newId a row} (hp : x.phase = .locking id) (hc : x.call = .rotate newId a)
      (hl : s.Latest tid id row) (ho : row.Live x.now) :
      Statement ids s tid x (.write id .forUpdate (.inserting (a.row newId x.now row) (some row)))
  | revokeSkips {id h} (hp : x.phase = .locking id) (hc : x.call = .revoke h) :
      Statement ids s tid x (.goto (.returned .revoked))
  | revokes {id h row} (hp : x.phase = .locking id) (hc : x.call = .revoke h) (hl : s.Latest tid id row) :
      Statement ids s tid x (.write id (.revoke x.now) (.returned .revoked))
  | insertFails {new old e} (hp : x.phase = .inserting new old) :
      Statement ids s tid x (.rollback (some e))
  | insertsFirst {new} (hp : x.phase = .inserting new none) (hid : ∀ y ∈ s, y.row.id ≠ new.id)
      (hth : ∀ y ∈ s, y.row.tokenHash ≠ new.tokenHash) :
      Statement ids s tid x (.insert new (.returned (.created new.created)))
  | insertsNext {new old} (hp : x.phase = .inserting new (some old)) (hid : ∀ y ∈ s, y.row.id ≠ new.id)
      (hth : ∀ y ∈ s, y.row.tokenHash ≠ new.tokenHash) :
      Statement ids s tid x (.insert new (.revokingOld old new))
  | revokesOld {old new} (hp : x.phase = .revokingOld old new) :
      Statement ids s tid x (.write old.id (.revoke x.now) (.returned (.created new.created)))
  | visitWaits {id u t todo count owner} (hp : x.phase = .visiting todo count) (hc : x.call = .revokeAll u t)
      (ha : s.access UserSession.id tid id = .heldBy owner) : Statement ids s tid x (.wait owner)
  | visits {id u t todo count row} (hp : x.phase = .visiting todo count) (hc : x.call = .revokeAll u t)
      (hl : s.Latest tid id row) (hw : UserSession.revocable u t x.now row) :
      Statement ids s tid x (.write id (.revoke x.now) (.visiting (todo.erase id) (count + 1)))
  | visitSkips {id u t todo count row} (hp : x.phase = .visiting todo count) (hc : x.call = .revokeAll u t)
      (hl : s.Latest tid id row) (hw : ¬ UserSession.revocable u t x.now row) :
      Statement ids s tid x (.goto (.visiting (todo.erase id) count))
  | scanEnds {count} (hp : x.phase = .visiting [] count) :
      Statement ids s tid x (.goto (.returned (.revokedCount count)))
  | commits {reply} (hp : x.phase = .returned reply) : Statement ids s tid x (.commit reply)
  | aborts (hp : x.phase.finished = false) : Statement ids s tid x (.rollback none)

section Statement

variable {ids : IdentityTables} {s : Store Tid UserSession} {tid : Tid} {x : SessionTxn} {e : SessionEffect}

theorem Store.onLock_cases {id : Uuid} {go : UserSession → Option SessionEffect}
    (h : s.onLock tid id go = some e) :
    (∃ row, s.Latest tid id row ∧ go row = some e) ∨
    (∃ owner, s.access UserSession.id tid id = .heldBy owner ∧ e = .wait owner) := by
  unfold Store.onLock at h
  split at h
  · cases h
  · rename_i row ha; exact Or.inl ⟨row, Or.inl ha, h⟩
  · rename_i row ha; exact Or.inl ⟨row, Or.inr ha, h⟩
  · rename_i owner ha; cases h; exact Or.inr ⟨owner, ha, rfl⟩

private theorem statement_begin (hp : x.phase = .start) :
    Statement ids s tid x (.goto (x.begin ids s.rows)) := by
  unfold SessionTxn.begin
  split
  · rename_i id a hc
    split
    · exact .createFails hp hc
    · split
      · exact .createFails hp hc
      · exact .creates hp hc
  · rename_i h hc; exact .gets hp hc
  · rename_i h ttl hc
    split
    · exact .touchFails hp hc
    · rename_i r hr
      split
      · exact .touchFails hp hc
      · rename_i hl; exact .touchFinds hp hc hr (UserSession.check_ok.1 hl)
  · rename_i id a hc
    split
    · exact .rotateMisses hp hc
    · rename_i r hr; exact .rotateFinds hp hc hr
  · rename_i h hc
    split
    · exact .revokeMisses hp hc
    · rename_i r hr
      split
      · exact .revokeMisses hp hc
      · rename_i hu; exact .revokeFinds hp hc hr (by simpa using hu)
  · rename_i u t hc; exact .scans hp hc

private theorem statement_onRow {id : Uuid} {row : UserSession} (hp : x.phase = .locking id)
    (hl : s.Latest tid id row) (h : x.onRow id row = some e) : Statement ids s tid x e := by
  unfold SessionTxn.onRow at h
  split at h
  · rename_i k ttl hc; cases h; exact .touches hp hc hl
  · rename_i newId a hc
    split at h
    · rename_i e' he; cases h; exact .rotateFails hp hc hl he
    · rename_i ho; cases h; exact .rotateLocks hp hc hl (UserSession.check_ok.1 ho)
  · rename_i k hc
    split at h
    · cases h; exact .revokeSkips hp hc
    · cases h; exact .revokes hp hc hl
  · cases h

private theorem statement_insertRow {new : UserSession} {old : Option UserSession}
    (hp : x.phase = .inserting new old) (h : s.insertRow ids tid new old = some e) : Statement ids s tid x e := by
  unfold Store.insertRow at h
  split at h
  · cases h; exact .insertFails hp
  · split at h
    · cases h
    · cases h; exact .insertFails hp
    · rename_i hid
      split at h
      · cases h
      · cases h; exact .insertFails hp
      · rename_i hth
        split at h
        · cases h; exact .insertFails hp
        · cases h; exact .insertsFirst hp (Store.clash_none hid) (Store.clash_none hth)
        · cases h; exact .insertsNext hp (Store.clash_none hid) (Store.clash_none hth)

theorem Statement.of_next (h : x.next ids s tid = some e) : Statement ids s tid x e := by
  unfold SessionTxn.next at h
  split at h
  · rename_i hp; cases h; exact statement_begin hp
  · rename_i id hp
    rcases Store.onLock_cases h with ⟨row, hl, hg⟩ | ⟨owner, ha, rfl⟩
    · exact statement_onRow hp hl hg
    · exact .waits hp ha
  · rename_i new old hp; exact statement_insertRow hp h
  · rename_i old new hp; cases h; exact .revokesOld hp
  · rename_i count hp; cases h; exact .scanEnds hp
  · cases h
  · rename_i reply hp; cases h; exact .commits hp
  · cases h
  · cases h

private theorem Statement.of_visit {id : Uuid} (h : x.visit s tid id = some e) : Statement ids s tid x e := by
  unfold SessionTxn.visit at h
  split at h
  · rename_i u t todo count hc hp
    split at h
    · rcases Store.onLock_cases h with ⟨row, hl, hg⟩ | ⟨owner, ha, rfl⟩
      · split at hg
        · rename_i hw; cases hg; exact .visits hp hc hl hw
        · rename_i hw; cases hg; exact .visitSkips hp hc hl hw
      · exact .visitWaits hp hc ha
    · cases h
  · cases h

end Statement

/-- A visit leaves the transaction scanning. -/
private theorem SessionTxn.visit_ne_commit {s : Store Tid UserSession} {tid : Tid} {x : SessionTxn} {id : Uuid}
    {reply : SessionReply} : x.visit s tid id ≠ some (.commit reply) := by
  intro h
  unfold SessionTxn.visit at h
  split at h
  · split at h
    · rcases Store.onLock_cases h with ⟨row, -, hg⟩ | ⟨owner, -, he⟩
      · split at hg <;> cases hg
      · cases he
    · cases h
  · cases h

/-- A step is the clock, a new transaction, or a statement of a transaction; a commit is an `exec`. -/
theorem sessionMachine_action {s s' : SessionState} {a : SessionAction} (h : sessionMachine.step s a = some s') :
    (∃ d : Nat, s' = { s with clock := s.clock + d }) ∨
    (∃ tid call, a = .start tid call ∧ s.txns tid = none ∧ s' = s.put tid ⟨s.clock, call, .start, none, []⟩) ∨
    (∃ tid x e, s.txns tid = some x ∧ Statement s.ids s.sessions tid x e ∧ s' = s.apply tid x e ∧
      ∀ reply, e = .commit reply → a = .exec tid) := by
  cases a with
  | tick d => cases h; exact Or.inl ⟨d, rfl⟩
  | start tid call =>
    simp only [sessionMachine] at h
    split at h
    · rename_i hn; cases h; exact Or.inr (Or.inl ⟨tid, call, rfl, hn, rfl⟩)
    · cases h
  | exec tid =>
    obtain ⟨x, hx, h⟩ := Option.bind_eq_some_iff.1 h
    obtain ⟨e, he, rfl⟩ := Option.map_eq_some_iff.1 h
    exact Or.inr (Or.inr ⟨tid, x, e, hx, .of_next he, rfl, fun _ _ => rfl⟩)
  | visit tid id =>
    obtain ⟨x, hx, h⟩ := Option.bind_eq_some_iff.1 h
    obtain ⟨e, he, rfl⟩ := Option.map_eq_some_iff.1 h
    refine Or.inr (Or.inr ⟨tid, x, e, hx, .of_visit he, rfl, fun reply hr => ?_⟩)
    rw [hr] at he
    exact absurd he SessionTxn.visit_ne_commit
  | abort tid =>
    obtain ⟨x, hx, h⟩ := Option.bind_eq_some_iff.1 h
    split at h
    · cases h
    · rename_i hf
      cases h
      exact Or.inr (Or.inr ⟨tid, x, _, hx, .aborts (by simpa using hf), rfl, fun _ he => by cases he⟩)

/-- The same without the call that starts. -/
theorem sessionMachine_step {s s' : SessionState} {a : SessionAction} (h : sessionMachine.step s a = some s') :
    (∃ d : Nat, s' = { s with clock := s.clock + d }) ∨
    (∃ tid call, s.txns tid = none ∧ s' = s.put tid ⟨s.clock, call, .start, none, []⟩) ∨
    (∃ tid x e, s.txns tid = some x ∧ Statement s.ids s.sessions tid x e ∧ s' = s.apply tid x e ∧
      ∀ reply, e = .commit reply → a = .exec tid) := by
  rcases sessionMachine_action h with hd | ⟨tid, call, -, hn, hs⟩ | hs
  · exact Or.inl hd
  · exact Or.inr (Or.inl ⟨tid, call, hn, hs⟩)
  · exact Or.inr (Or.inr hs)

/-- Only an unfinished transaction has a statement to run. -/
theorem Statement.unfinished {ids : IdentityTables} {s : Store Tid UserSession} {tid : Tid} {x : SessionTxn}
    {e : SessionEffect} (h : Statement ids s tid x e) : x.phase.finished = false := by
  cases h with
  | aborts hp => exact hp
  | _ => simp only [SessionPhase.finished, *]

/-- A commit or a rollback finishes a transaction, nothing else does. -/
theorem Statement.after_cases {ids : IdentityTables} {s : Store Tid UserSession} {tid : Tid} {x : SessionTxn}
    {e : SessionEffect} (h : Statement ids s tid x e) :
    (∃ reply, e = .commit reply ∧ x.phase = .returned reply) ∨ (∃ cause, e = .rollback cause) ∨
    ((x.after e).phase.finished = false ∧ (∀ reply, e ≠ .commit reply) ∧ ∀ cause, e ≠ .rollback cause) := by
  have hu := h.unfinished
  cases e with
  | commit reply => cases h with
    | commits hp => exact Or.inl ⟨reply, rfl, hp⟩
  | rollback cause => exact Or.inr (Or.inl ⟨cause, rfl⟩)
  | wait owner => exact Or.inr (Or.inr ⟨hu, nofun, nofun⟩)
  | goto next | write id f next | insert new next =>
    refine Or.inr (Or.inr ⟨?_, nofun, nofun⟩)
    cases h <;> rfl

/-! ### What stays the same -/

section Frame

variable {s : Store Tid UserSession} {tid u : Tid} {e : SessionEffect}

/-- The locks of the other transactions. -/
theorem Store.locked_after_of_ne (h : u ≠ tid) {r d : UserSession} :
    .stored r (some (u, d)) ∈ s.after tid e ↔ .stored r (some (u, d)) ∈ s := by
  cases e with
  | goto _ | wait _ => rfl
  | write id f _ =>
    unfold Store.after
    rw [Store.locked_mem_write]
    exact ⟨fun hm => hm.elim And.left fun hm => hm.elim (absurd ·.2.1 h) (absurd ·.2.1 h),
      fun hm => Or.inl ⟨hm, fun _ => h⟩⟩
  | insert new _ => simp [Store.after, Store.mem_insert]
  | commit _ => simp [Store.after, Store.locked_mem_commit, h]
  | rollback _ => simp [Store.after, Store.locked_mem_abort, h]

/-- A transaction keeps its locks to its end. -/
theorem Store.locked_after_self (hc : ∀ reply, e ≠ .commit reply) (hr : ∀ cause, e ≠ .rollback cause)
    {r d : UserSession} (hm : .stored r (some (tid, d)) ∈ s) : ∃ d', .stored r (some (tid, d')) ∈ s.after tid e := by
  cases e with
  | goto _ | wait _ => exact ⟨d, hm⟩
  | write id f _ =>
    by_cases hk : r.id = id
    · exact ⟨_, Store.locked_mem_write.2 (Or.inr (Or.inr ⟨hk, rfl, d, hm, rfl⟩))⟩
    · exact ⟨d, Store.locked_mem_write.2 (Or.inl ⟨hm, fun he => absurd he hk⟩)⟩
  | insert new _ => exact ⟨d, Store.mem_insert.2 (Or.inl hm)⟩
  | commit reply => exact absurd rfl (hc reply)
  | rollback cause => exact absurd rfl (hr cause)

/-- The rows the other transactions have inserted. -/
theorem Store.pending_after_of_ne (h : u ≠ tid) {r : UserSession} :
    .pending u r ∈ s.after tid e ↔ .pending u r ∈ s := by
  cases e with
  | goto _ | wait _ => rfl
  | write id f _ =>
    unfold Store.after
    rw [Store.pending_mem_write]
    exact ⟨fun hm => hm.elim And.left (absurd ·.1 h), fun hm => Or.inl ⟨hm, fun _ => h⟩⟩
  | insert new _ =>
    unfold Store.after
    rw [Store.mem_insert]
    exact ⟨fun hm => hm.elim id fun he => absurd (Slot.pending.inj he).1 h, Or.inl⟩
  | commit _ => simp [Store.after, Store.pending_mem_commit, h]
  | rollback _ => simp [Store.after, Store.pending_mem_abort, h]

/-- Only a commit changes the committed rows. -/
theorem Store.rows_after (h : ∀ reply, e ≠ .commit reply) : (s.after tid e).rows = s.rows := by
  cases e with
  | goto _ | wait _ => rfl
  | write id f _ => exact Store.rows_write ..
  | insert new _ => exact Store.rows_insert ..
  | commit reply => exact absurd rfl (h reply)
  | rollback _ => exact Store.rows_abort ..

/-- A key that no update changes and that an insert finds unused stays unique. -/
theorem Store.WellKeyed.after {κ : Type} {key : UserSession → κ} (h : Store.WellKeyed key s)
    (hu : ∀ (f : SessionUpdate) r, key (f.set r) = key r)
    (hi : ∀ new phase, e = .insert new phase → ∀ y ∈ s, key y.row ≠ key new) :
      Store.WellKeyed key (s.after tid e) := by
  cases e with
  | goto _ | wait _ => exact h
  | write id f _ => exact h.write _ _ _ (hu f)
  | insert new phase => exact h.insert (hi new phase rfl)
  | commit _ => exact h.commit tid
  | rollback _ => exact h.abort tid

@[simp] theorem SessionTxn.after_call {x : SessionTxn} : (x.after e).call = x.call := by cases e <;> rfl
@[simp] theorem SessionTxn.after_now {x : SessionTxn} : (x.after e).now = x.now := by cases e <;> rfl

end Frame

namespace SessionState

variable (s : SessionState) (tid : Tid) (x : SessionTxn) (e : SessionEffect)

@[simp] theorem put_ids : (s.put tid x).ids = s.ids := rfl
@[simp] theorem put_clock : (s.put tid x).clock = s.clock := rfl
@[simp] theorem put_sessions : (s.put tid x).sessions = s.sessions := rfl
@[simp] theorem put_txns_self : (s.put tid x).txns tid = some x := Function.update_self ..
theorem put_txns_of_ne {u : Tid} (h : u ≠ tid) : (s.put tid x).txns u = s.txns u := Function.update_of_ne h ..

@[simp] theorem apply_ids : (s.apply tid x e).ids = s.ids := rfl
@[simp] theorem apply_clock : (s.apply tid x e).clock = s.clock := rfl
@[simp] theorem apply_sessions : (s.apply tid x e).sessions = s.sessions.after tid e := rfl
@[simp] theorem apply_txns_self : (s.apply tid x e).txns tid = some (x.after e) := Function.update_self ..
theorem apply_txns_of_ne {u : Tid} (h : u ≠ tid) : (s.apply tid x e).txns u = s.txns u :=
  Function.update_of_ne h ..

end SessionState

/-- A finished transaction stays as it is. -/
theorem sessionMachine_finished {s s' : SessionState} {as : List SessionAction}
    (h : sessionMachine.run s as = some s') {tid : Tid} {x : SessionTxn} (hx : s.txns tid = some x)
    (hf : x.phase.finished) : s'.txns tid = some x := by
  refine Machine.run_induction (P := fun s => s.txns tid = some x) (fun s a s' hx hst => ?_) h hx
  rcases sessionMachine_step hst with ⟨d, rfl⟩ | ⟨u, call, hn, rfl⟩ | ⟨u, y, e, hy, hs, rfl, -⟩
  · exact hx
  · have hne : tid ≠ u := by rintro rfl; rw [hn] at hx; cases hx
    rw [SessionState.put_txns_of_ne _ _ _ hne]
    exact hx
  · have hne : tid ≠ u := by
      rintro rfl
      obtain rfl : y = x := Option.some.inj (hy.symm.trans hx)
      rw [hs.unfinished] at hf
      cases hf
    rw [SessionState.apply_txns_of_ne _ _ _ _ hne]
    exact hx

end CleanBackend
