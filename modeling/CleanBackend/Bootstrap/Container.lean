import CleanBackend.Core.ErrorEnvelope
import CleanBackend.Lib.Held
import CleanBackend.Lib.Machine

/-!
# The container and its lifecycle

`bootstrap/container.py` with `db/connection.py` and `infrastructure/cache/redis_client.py`.  The container opens
three things: the asyncpg pool, known to `database` and to `transaction_manager`; the `httpx` client, known to
`_gotrue_http` and to `supabase_auth_client`; and the Redis pool, known to `redis_client` and to `rate_limiter`.  What
a client library does at a call (it returns, or it raises and leaves behind what it has opened) is a parameter of the
call.
-/

namespace CleanBackend

/-- The settings that decide what is acquired. -/
structure Settings where
  startupConnectDatabase : Bool
  startupPreloadJwks : Bool
  startupConnectRedis : Bool
  startupLoadCasbin : Bool
  startupCreateCelery : Bool
  postgresDatabaseUrl : Option String
  redisUrl : Option String
  supabaseProjectUrl : Option String
  supabaseAnonKey : Option String
  oauthRedirectUri : Option String
  supabaseJwksUrl : Option String

/-- The truth value of an optional text. -/
def truthy : Option String → Bool
  | none => false
  | some text => text ≠ ""

/-- An exception out of a client library, by the classes that the source tells apart, with the name of its type. -/
inductive PyException where
  | postgresError (typeName : String)
  | osError (typeName : String)
  | timeoutError (typeName : String)
  | other (typeName : String)

/-- What leaves `startup` or `shutdown`. -/
inductive LifecycleError where
  | app (error : AppError)
  | notImplemented (message : String)
  | library (exc : PyException)

/-- How the acquisitions of one startup go: the exception each raises, if it raises one. -/
structure StartupFates where
  createPool : Option PyException
  /-- a connection of the pool that could not be created stays open -/
  createPoolLeaves : Bool
  preload : Option PyException
  ping : Option PyException
  /-- the connection that the failed ping was sent on stays open -/
  pingLeaves : Bool
  loadCasbin : Option PyException

/-- How the releases of one shutdown go. -/
structure ShutdownFates where
  closeHttp : Option PyException
  closeRedis : Option PyException
  closePool : Option PyException

structure Container where
  /-- `database` and `transaction_manager` -/
  pool : Held
  /-- `_gotrue_http` and `supabase_auth_client` -/
  http : Held
  /-- `redis_client` and `rate_limiter` -/
  redis : Held
  /-- whether `jwks_client` is there -/
  jwksClient : Bool
  casbinEnforcer : Bool
  authorizationService : Bool
  started : Bool

namespace Container

def init : Container := ⟨.empty, .empty, .empty, false, false, false, false⟩

abbrev Lifecycle := EStateM LifecycleError Container

/-- One of the three things of the container. -/
structure Slot where
  held : Container → Held
  put : Container → Held → Container
  held_put : ∀ c h, held (put c h) = h
  put_put : ∀ c h h', put (put c h) h' = put c h'
  put_held : ∀ c, put c (held c) = c

def poolSlot : Slot :=
  ⟨Container.pool, fun c h => { c with pool := h }, fun _ _ => rfl, fun _ _ _ => rfl, fun _ => rfl⟩

def httpSlot : Slot :=
  ⟨Container.http, fun c h => { c with http := h }, fun _ _ => rfl, fun _ _ _ => rfl, fun _ => rfl⟩

def redisSlot : Slot :=
  ⟨Container.redis, fun c h => { c with redis := h }, fun _ _ => rfl, fun _ _ _ => rfl, fun _ => rfl⟩

namespace Slot

def update (slot : Slot) (f : Held → Held) : Lifecycle Unit := modify fun c => slot.put c (f (slot.held c))

/-- `connect` of the object `o`: nothing if it is connected; otherwise it opens, or raises `failure`. -/
def connect (slot : Slot) (raises : Option PyException) (leaves : Bool) (failure : PyException → LifecycleError)
    (o : Nat) : Lifecycle Unit := do
  if o ∈ (slot.held (← get)).connected then
    return
  match raises with
  | none => slot.update fun h => h.connect o
  | some exc =>
    slot.update fun h => h.leave o leaves
    throw (failure exc)

/-- A stage of `startup`: with its flag set, `from_settings` needs the URL, and the new object is connected and handed
to the one that uses it. -/
def acquire (slot : Slot) (flag : Bool) (url : Option String) (missing : AppError)
    (connect : Nat → Lifecycle Unit) : Lifecycle Unit := do
  if flag then
    match url with
    | none => throw (.app missing)
    | some _ =>
      let o := (slot.held (← get)).fresh
      slot.update Held.construct
      connect o
      slot.update Held.handOn

/-- The release of what is in the first field: nothing if the field is clear or its object not connected. -/
def release (slot : Slot) (raises : Option PyException) : Lifecycle Unit := do
  match (slot.held (← get)).owner with
  | none => return
  | some o =>
    if o ∈ (slot.held (← get)).connected then
      match raises with
      | none => slot.update fun h => h.closed o
      | some exc => throw (.library exc)

end Slot

/-! ### Startup -/

section Startup

variable (settings : Settings)

/-- The `except` clause of `DatabasePool.connect`. -/
def connectFailure : PyException → LifecycleError
  | .postgresError typeName | .osError typeName | .timeoutError typeName =>
    .app { AppError.databaseConnection [("error_type", .str typeName)] with
      message := "Failed to connect the database pool" }
  | exc => .library exc

/-- `DatabasePool.connect`. -/
def connectPool (fates : StartupFates) : Nat → Lifecycle Unit :=
  poolSlot.connect fates.createPool fates.createPoolLeaves connectFailure

def poolUrlMissing : AppError :=
  { AppError.databaseConnection [] with
    message := "POSTGRES_DATABASE_URL is not set but a database pool was requested" }

def startDatabase (fates : StartupFates) : Lifecycle Unit :=
  poolSlot.acquire settings.startupConnectDatabase settings.postgresDatabaseUrl poolUrlMissing (connectPool fates)

/-- The condition under which the GoTrue client is built. -/
def gotrueConfigured : Bool :=
  truthy settings.supabaseProjectUrl && truthy settings.supabaseAnonKey && truthy settings.oauthRedirectUri

def startGotrue : Lifecycle Unit := do
  if gotrueConfigured settings then
    let o := (← get).http.fresh
    httpSlot.update Held.construct
    -- the client is open from its construction on
    httpSlot.update fun h => h.connect o
    httpSlot.update Held.handOn

def startJwks (fates : StartupFates) : Lifecycle Unit := do
  if truthy settings.supabaseJwksUrl then
    modify fun c => { c with jwksClient := true }
    if settings.startupPreloadJwks then
      match fates.preload with
      | none => return
      | some exc => throw (.library exc)

def redisUrlMissing : AppError :=
  ⟨"EXTERNAL_SERVICE_ERROR", 502, .external, "REDIS_URL is not set but a Redis client was requested",
    [("service", .str "redis")]⟩

/-- `RedisClient.connect`. -/
def connectRedis (fates : StartupFates) : Nat → Lifecycle Unit :=
  redisSlot.connect fates.ping fates.pingLeaves .library

def startRedis (fates : StartupFates) : Lifecycle Unit :=
  redisSlot.acquire settings.startupConnectRedis settings.redisUrl redisUrlMissing (connectRedis fates)

def startCasbin (fates : StartupFates) : Lifecycle Unit := do
  if settings.startupLoadCasbin then
    match fates.loadCasbin with
    | none => modify fun c => { c with casbinEnforcer := true, authorizationService := true }
    | some exc => throw (.library exc)

def startCelery : Lifecycle Unit := do
  if settings.startupCreateCelery then
    throw (.notImplemented
      "STARTUP_CREATE_CELERY=true, but the Celery app has not shipped yet. Set the flag to false.")

def startup (fates : StartupFates) : Lifecycle Unit := do
  if (← get).started then
    return
  startDatabase settings fates
  startGotrue settings
  startJwks settings fates
  startRedis settings fates
  startCasbin settings fates
  startCelery settings
  modify fun c => { c with started := true }

end Startup

/-! ### Shutdown -/

/-- `aclose` of the `httpx` client, which does nothing to a client that is closed. -/
def closeHttp (fates : ShutdownFates) : Lifecycle Unit := httpSlot.release fates.closeHttp

/-- `RedisClient.disconnect`. -/
def disconnectRedis (fates : ShutdownFates) : Lifecycle Unit := redisSlot.release fates.closeRedis

/-- `DatabasePool.disconnect`. -/
def disconnectPool (fates : ShutdownFates) : Lifecycle Unit := poolSlot.release fates.closePool

def shutdown (fates : ShutdownFates) : Lifecycle Unit := do
  if !(← get).started then
    return
  closeHttp fates
  httpSlot.update Held.drop
  modify fun c => { c with jwksClient := false, authorizationService := false, casbinEnforcer := false }
  redisSlot.update Held.dropUser
  disconnectRedis fates
  redisSlot.update Held.drop
  disconnectPool fates
  poolSlot.update Held.drop
  modify fun c => { c with started := false }

/-! ### Runs -/

inductive Call where
  | startup (fates : StartupFates)
  | shutdown (fates : ShutdownFates)

def call (settings : Settings) : Call → Lifecycle Unit
  | .startup fates => startup settings fates
  | .shutdown fates => shutdown fates

/-- The state that a call ends in, whether it returns or raises. -/
def reached : EStateM.Result LifecycleError Container Unit → Container
  | .ok _ c => c
  | .error _ c => c

def returned : EStateM.Result LifecycleError Container Unit → Bool
  | .ok _ _ => true
  | .error _ _ => false

/-- The calls on one container, one after another. -/
def lifecycleMachine (settings : Settings) : Machine Container Call where
  step c a := some (reached ((call settings a).run c))

/-! ### What a startup does -/

theorem reached_bind (m : Lifecycle Unit) (k : Unit → Lifecycle Unit) (c : Container) :
    reached ((m >>= k).run c) =
      if returned (m.run c) then reached ((k ()).run (reached (m.run c))) else reached (m.run c) := by
  rw [EStateM.run_bind]
  cases m.run c <;> rfl

theorem returned_bind (m : Lifecycle Unit) (k : Unit → Lifecycle Unit) (c : Container) :
    returned ((m >>= k).run c) = (returned (m.run c) && returned ((k ()).run (reached (m.run c)))) := by
  rw [EStateM.run_bind]
  cases m.run c <;> rfl

/-- The pool is asked for. -/
def poolAsked (settings : Settings) : Bool := settings.startupConnectDatabase && settings.postgresDatabaseUrl.isSome

def poolPasses (settings : Settings) (fates : StartupFates) : Bool :=
  !settings.startupConnectDatabase || settings.postgresDatabaseUrl.isSome && fates.createPool.isNone

def jwksPasses (settings : Settings) (fates : StartupFates) : Bool :=
  !(truthy settings.supabaseJwksUrl && settings.startupPreloadJwks) || fates.preload.isNone

def redisAsked (settings : Settings) : Bool := settings.startupConnectRedis && settings.redisUrl.isSome

def redisPasses (settings : Settings) (fates : StartupFates) : Bool :=
  !settings.startupConnectRedis || settings.redisUrl.isSome && fates.ping.isNone

section

variable {settings : Settings} {fates : StartupFates} {c : Container}

theorem poolPasses_wanted (hp : poolPasses settings fates = true) (hw : settings.startupConnectDatabase = true) :
    poolAsked settings = true ∧ fates.createPool.isNone = true := by
  rw [poolPasses, hw, Bool.not_true, Bool.false_or, Bool.and_eq_true_iff] at hp
  exact ⟨Bool.and_eq_true_iff.2 ⟨hw, hp.1⟩, hp.2⟩

theorem redisPasses_wanted (hp : redisPasses settings fates = true) (hw : settings.startupConnectRedis = true) :
    redisAsked settings = true ∧ fates.ping.isNone = true := by
  rw [redisPasses, hw, Bool.not_true, Bool.false_or, Bool.and_eq_true_iff] at hp
  exact ⟨Bool.and_eq_true_iff.2 ⟨hw, hp.1⟩, hp.2⟩

variable (settings fates c)

private theorem Slot.connect_spec (slot : Slot) (raises : Option PyException) (leaves : Bool)
    (failure : PyException → LifecycleError) {o : Nat} (ho : o ∉ (slot.held c).connected) :
    (slot.connect raises leaves failure o).run c =
      match raises with
      | none => .ok () (slot.put c ((slot.held c).connect o))
      | some exc => .error (failure exc) (slot.put c ((slot.held c).leave o leaves)) := by
  unfold Slot.connect
  rw [EStateM.run_bind, EStateM.run_get]
  dsimp only
  rw [if_neg ho]
  cases raises <;> rfl

/-- A stage attempts a new object, and is passed when the flag is not set or the object connects. -/
private theorem Slot.acquire_spec (slot : Slot) {flag : Bool} {url : Option String} {missing : AppError}
    {raises : Option PyException} {leaves : Bool} {failure : PyException → LifecycleError}
    (hs : (slot.held c).Sound) :
    reached ((slot.acquire flag url missing (slot.connect raises leaves failure)).run c) =
        slot.put c ((slot.held c).attempt (flag && url.isSome) raises.isNone leaves) ∧
      returned ((slot.acquire flag url missing (slot.connect raises leaves failure)).run c) =
        (!flag || url.isSome && raises.isNone) := by
  have hnew : (slot.held c).fresh ∉ (slot.held (slot.put c (slot.held c).construct)).connected := by
    rw [slot.held_put]
    exact hs.not_connected
  have hconnect := slot.connect_spec _ raises leaves failure hnew
  have hmodify : ∀ f c', (slot.update f).run c' = .ok () (slot.put c' (f (slot.held c'))) := fun _ _ => rfl
  unfold Slot.acquire
  cases flag with
  | false => exact ⟨(slot.put_held c).symm, rfl⟩
  | true =>
    cases url with
    | none => exact ⟨(slot.put_held c).symm, rfl⟩
    | some url =>
      simp only [↓reduceIte, EStateM.run_bind, EStateM.run_get, hmodify, hconnect]
      cases raises with
      | none => simp only [slot.held_put, slot.put_put]; exact ⟨rfl, rfl⟩
      | some exc => simp only [slot.held_put, slot.put_put]; exact ⟨rfl, rfl⟩

theorem startDatabase_spec (hs : c.pool.Sound) :
    reached ((startDatabase settings fates).run c) =
        poolSlot.put c (c.pool.attempt (poolAsked settings) fates.createPool.isNone fates.createPoolLeaves) ∧
      returned ((startDatabase settings fates).run c) = poolPasses settings fates := poolSlot.acquire_spec c hs

theorem startGotrue_spec :
    (startGotrue settings).run c =
      .ok () (httpSlot.put c (c.http.attempt (gotrueConfigured settings) true false)) := by
  unfold startGotrue
  cases gotrueConfigured settings <;> rfl

theorem startJwks_spec :
    reached ((startJwks settings fates).run c) =
        { c with jwksClient := truthy settings.supabaseJwksUrl || c.jwksClient } ∧
      returned ((startJwks settings fates).run c) = jwksPasses settings fates := by
  unfold startJwks jwksPasses
  cases truthy settings.supabaseJwksUrl with
  | false => exact ⟨rfl, rfl⟩
  | true =>
    cases settings.startupPreloadJwks with
    | false => exact ⟨rfl, rfl⟩
    | true => cases fates.preload <;> exact ⟨rfl, rfl⟩

theorem startRedis_spec (hs : c.redis.Sound) :
    reached ((startRedis settings fates).run c) =
        redisSlot.put c (c.redis.attempt (redisAsked settings) fates.ping.isNone fates.pingLeaves) ∧
      returned ((startRedis settings fates).run c) = redisPasses settings fates := redisSlot.acquire_spec c hs

private theorem startCasbin_spec :
    reached ((startCasbin settings fates).run c) = c ∨
      reached ((startCasbin settings fates).run c) =
        { c with casbinEnforcer := true, authorizationService := true } := by
  unfold startCasbin
  cases settings.startupLoadCasbin with
  | false => exact Or.inl rfl
  | true =>
    cases fates.loadCasbin with
    | none => exact Or.inr rfl
    | some exc => exact Or.inl rfl

theorem startCelery_spec :
    (startCelery settings).run c = .ok () c ∨ ∃ e, (startCelery settings).run c = .error e c := by
  unfold startCelery
  cases settings.startupCreateCelery with
  | false => exact Or.inl rfl
  | true => exact Or.inr ⟨_, rfl⟩

variable {c}

theorem startup_idle (hn : c.started = false) :
    (startup settings fates).run c =
      (startDatabase settings fates >>= fun _ => startGotrue settings >>=
        fun _ => startJwks settings fates >>= fun _ =>
        startRedis settings fates >>= fun _ => startCasbin settings fates >>= fun _ =>
          startCelery settings >>= fun _ =>
          modify fun c => { c with started := true }).run c := by
  unfold startup
  rw [EStateM.run_bind, EStateM.run_get]
  simp only [hn]
  rfl

theorem startup_started (hs : c.started = true) : (startup settings fates).run c = .ok () c := by
  unfold startup
  rw [EStateM.run_bind, EStateM.run_get]
  simp only [hs]
  rfl

/-- The stages after Redis open nothing. -/
private theorem startRest_spec (c : Container) :
    let rest := startCasbin settings fates >>= fun _ => startCelery settings >>= fun _ =>
      modify fun c => { c with started := true }
    (reached (rest.run c)).pool = c.pool ∧ (reached (rest.run c)).http = c.http ∧
      (reached (rest.run c)).redis = c.redis := by
  have hcelery : ∀ c : Container,
      reached ((startCelery settings >>= fun _ => modify fun c => { c with started := true }).run c) = c ∨
        reached ((startCelery settings >>= fun _ => modify fun c => { c with started := true }).run c) =
          { c with started := true } := by
    intro c
    rw [EStateM.run_bind]
    rcases startCelery_spec settings c with h | ⟨e, h⟩
    · rw [h]
      exact Or.inr rfl
    · rw [h]
      exact Or.inl rfl
  intro rest
  have hrest : reached (rest.run c) = reached ((startCasbin settings fates).run c) ∨
      reached (rest.run c) = { reached ((startCasbin settings fates).run c) with started := true } := by
    show reached ((startCasbin settings fates >>= _).run c) = _ ∨
        reached ((startCasbin settings fates >>= _).run c) = _
    rw [reached_bind]
    split
    · exact hcelery _
    · exact Or.inl rfl
  rcases startCasbin_spec settings fates c with h | h <;> rw [h] at hrest <;>
    rcases hrest with hrest | hrest <;> rw [hrest] <;> exact ⟨rfl, rfl, rfl⟩

/-- The things that a startup attempts, and what it has passed when it marks the container as started. -/
theorem startup_spec (hn : c.started = false) (hpool : c.pool.Sound) (hredis : c.redis.Sound) :
    (reached ((startup settings fates).run c)).pool =
        c.pool.attempt (poolAsked settings) fates.createPool.isNone fates.createPoolLeaves ∧
      (reached ((startup settings fates).run c)).http =
        c.http.attempt (poolPasses settings fates && gotrueConfigured settings) true false ∧
      (reached ((startup settings fates).run c)).redis =
        c.redis.attempt (poolPasses settings fates && jwksPasses settings fates && redisAsked settings)
          fates.ping.isNone fates.pingLeaves ∧
      ((reached ((startup settings fates).run c)).started = true →
        poolPasses settings fates = true ∧ jwksPasses settings fates = true ∧ redisPasses settings fates = true) := by
  -- a client that raises ends the startup, and leaves the later slots as they were
  obtain ⟨hr₁, ho₁⟩ := startDatabase_spec settings fates c hpool
  rw [startup_idle settings fates hn, reached_bind, hr₁, ho₁]
  generalize hp : c.pool.attempt (poolAsked settings) fates.createPool.isNone fates.createPoolLeaves = pool
  cases poolPasses settings fates with
  | false => exact ⟨rfl, rfl, rfl, fun h => absurd (hn.symm.trans h) (by decide)⟩
  | true =>
    rw [if_pos rfl, EStateM.run_bind, startGotrue_spec]
    dsimp only
    generalize hc₂ : httpSlot.put (poolSlot.put c pool) _ = c₂
    have hc₂pool : c₂.pool = pool := hc₂ ▸ rfl
    have hc₂http : c₂.http = c.http.attempt (gotrueConfigured settings) true false := hc₂ ▸ rfl
    have hc₂redis : c₂.redis = c.redis := hc₂ ▸ rfl
    have hc₂started : c₂.started = c.started := hc₂ ▸ rfl
    obtain ⟨hr₃, ho₃⟩ := startJwks_spec settings fates c₂
    rw [reached_bind, hr₃, ho₃]
    cases jwksPasses settings fates with
    | false => exact ⟨hc₂pool, hc₂http, hc₂redis, fun h => absurd ((hc₂started.trans hn).symm.trans h) (by decide)⟩
    | true =>
      rw [if_pos rfl]
      generalize hc₃ : ({ c₂ with jwksClient := _ } : Container) = c₃
      have hc₃redis : c₃.redis = c.redis := by rw [← hc₃, ← hc₂redis]
      obtain ⟨hr₄, ho₄⟩ := startRedis_spec settings fates c₃ (hc₃redis ▸ hredis)
      rw [reached_bind, hr₄, ho₄, hc₃redis]
      cases redisPasses settings fates with
      | false =>
        subst hc₃
        exact ⟨hc₂pool, hc₂http, rfl, fun h => absurd ((hc₂started.trans hn).symm.trans h) (by decide)⟩
      | true =>
        rw [if_pos rfl]
        obtain ⟨hrest₁, hrest₂, hrest₃⟩ := startRest_spec settings fates (redisSlot.put c₃
          (c.redis.attempt (redisAsked settings) fates.ping.isNone fates.pingLeaves))
        subst hc₃
        exact ⟨hrest₁.trans hc₂pool, hrest₂.trans hc₂http, hrest₃, fun _ => ⟨rfl, rfl, rfl⟩⟩

end

end Container

end CleanBackend
