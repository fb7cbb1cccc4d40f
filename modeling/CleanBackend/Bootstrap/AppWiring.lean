import CleanBackend.Bootstrap.Lifecycle

/-!
# What the app hands to its requests

`lifespan` puts the resources of a container on `app.state`, and the providers of `bootstrap/factories.py` hand them
to the requests.  While the app serves, the resources are there exactly when the settings ask for them
(`Process.serving_wired`), and a request is handed those of its own lifespan.  The session repository and the identity
mapper are built once and stay on `app.state` when the lifespan ends: all that an app hands out are over the pool of
the lifespan in which the first was built, so that in a later lifespan of the same app they are over a closed pool
(`adapters_outlive_lifespan`).
-/

namespace CleanBackend

open Container

/-- The settings, with what the providers read of them. -/
structure AppSettings extends Settings where
  sessionTokenEncryptionKey : Option String
  supabaseJwtIssuer : Option String
  rateLimitEnabled : Bool

/-- The attributes of `app.state`; an object is known by the number of the lifespan whose resources it holds. -/
structure AppWiring where
  transactionManager : Option Nat
  dbPool : Option Nat
  supabaseAuthClient : Option Nat
  jwksClient : Option Nat
  authorizationService : Bool
  redisClient : Option Nat
  rateLimiter : Option Nat
  sessionRepository : Option Nat
  identityMapper : Option Nat
  jwtVerifier : Option Nat
  deriving DecidableEq, Repr

namespace AppWiring

/-- A new app. -/
def init : AppWiring := ⟨none, none, none, none, false, none, none, none, none, none⟩

/-- What `lifespan` puts on `app.state` before it serves; the pool of a started container is connected. -/
def expose (state : AppWiring) (n : Nat) (c : Container) : AppWiring :=
  { state with
    transactionManager := c.pool.user.map fun _ => n
    dbPool := c.pool.owner.map fun _ => n
    supabaseAuthClient := c.http.user.map fun _ => n
    jwksClient := if c.jwksClient then some n else none
    authorizationService := c.authorizationService
    redisClient := c.redis.owner.map fun _ => n
    rateLimiter := c.redis.user.map fun _ => n }

/-- What it clears after the shutdown. -/
def clear (state : AppWiring) : AppWiring :=
  { state with
    transactionManager := none, dbPool := none, supabaseAuthClient := none, jwksClient := none,
    authorizationService := false, redisClient := none, rateLimiter := none }

/-! ### The providers -/

section Providers

variable (settings : AppSettings) (state : AppWiring)

/-- `none` is the `RuntimeError`. -/
def provideTransactionManager : Option Nat := state.transactionManager

def requirePool : Option Nat := state.dbPool

/-- `validKey` tells the keys that `TokenCipher` takes. -/
def provideSessionRepository (validKey : String → Bool) : Option Nat × AppWiring :=
  match state.sessionRepository with
  | some existing => (some existing, state)
  | none =>
    if settings.sessionTokenEncryptionKey.any validKey then
      match state.requirePool with
      | none => (none, state)
      | some pool => (some pool, { state with sessionRepository := some pool })
    else (none, state)

def provideIdentityMapper : Option Nat × AppWiring :=
  match state.identityMapper with
  | some existing => (some existing, state)
  | none =>
    match state.requirePool with
    | none => (none, state)
    | some pool => (some pool, { state with identityMapper := some pool })

/-- `none` is a limiter that is off. -/
def provideRateLimiter : Option Nat := if settings.rateLimitEnabled then state.rateLimiter else none

/-- Built from the policy file if it is not there; `loads` tells whether the file does. -/
def provideAuthorizationService (loads : Bool) : Bool × AppWiring :=
  if state.authorizationService then (true, state) else (loads, { state with authorizationService := loads })

def provideSupabaseAuthClient : Option Nat := state.supabaseAuthClient

def provideJwtVerifier : Option Nat × AppWiring :=
  match state.jwtVerifier with
  | some existing => (some existing, state)
  | none =>
    match state.jwksClient, settings.supabaseJwtIssuer with
    | some client, some _ => (some client, { state with jwtVerifier := some client })
    | _, _ => (none, state)

end Providers

end AppWiring

/-! ### A process -/

/-- An adapter that a request was handed: in which lifespan, over the pool of which, and whether that was open. -/
structure HandedOut where
  lifespan : Nat
  pool : Nat
  poolOpen : Bool
  deriving DecidableEq, Repr

/-- One app: the containers of its lifespans, and what its requests were handed. -/
structure Process where
  ended : List Container
  serving : Option Container
  state : AppWiring
  repositories : List HandedOut
  mappers : List HandedOut
  /-- the lifespan of a request, and that of the resource of `app.state` that it was handed -/
  resources : List (Nat × Nat)

inductive ProcessEvent where
  /-- the app enters its lifespan -/
  | enter (up : StartupFates)
  | leave (down : ShutdownFates)
  /-- a request depends on a provider -/
  | sessionRepository
  | identityMapper
  | authorizationService (loads : Bool)
  | jwtVerifier
  | transactionManager
  | supabaseAuthClient
  | rateLimiter

namespace Process

def init : Process := ⟨[], none, .init, [], [], []⟩

/-- The container of a lifespan. -/
def containerOf (p : Process) (n : Nat) : Option Container := (p.ended ++ p.serving.toList)[n]?

/-- A request asks for a resource of `app.state`. -/
def handResource (p : Process) (resource : Option Nat) : Process :=
  { p with resources := p.resources ++ (resource.map fun n => (p.ended.length, n)).toList }

/-- An adapter over the pool of a lifespan is handed to a request. -/
def handedOut (p : Process) (pool : Nat) : HandedOut where
  lifespan := p.ended.length
  pool := pool
  poolOpen := (p.containerOf pool).any fun c => decide (c.pool.opened ≠ ∅)

def step (settings : AppSettings) (validKey : String → Bool) (p : Process) : ProcessEvent → Process
  | .enter up =>
    match p.serving with
    | some _ => p
    | none =>
      match (startup settings.toSettings up).run .init with
      -- the exception leaves the lifespan before it has touched `app.state`
      | .error _ _ => p
      | .ok _ c => { p with serving := some c, state := p.state.expose p.ended.length c }
  | .leave down =>
    match p.serving with
    | none => p
    | some c =>
      match (shutdown down).run c with
      | .error _ c => { p with ended := p.ended ++ [c], serving := none }
      | .ok _ c => { p with ended := p.ended ++ [c], serving := none, state := p.state.clear }
  | .sessionRepository =>
    if p.serving.isNone then p
    else
      let (repository, state) := p.state.provideSessionRepository settings validKey
      { p with state, repositories := p.repositories ++ (repository.map p.handedOut).toList }
  | .identityMapper =>
    if p.serving.isNone then p
    else
      let (mapper, state) := p.state.provideIdentityMapper
      { p with state, mappers := p.mappers ++ (mapper.map p.handedOut).toList }
  | .authorizationService loads =>
    if p.serving.isNone then p else { p with state := (p.state.provideAuthorizationService loads).2 }
  | .jwtVerifier => if p.serving.isNone then p else { p with state := (p.state.provideJwtVerifier settings).2 }
  | .transactionManager => if p.serving.isNone then p else p.handResource p.state.provideTransactionManager
  | .supabaseAuthClient => if p.serving.isNone then p else p.handResource p.state.provideSupabaseAuthClient
  | .rateLimiter => if p.serving.isNone then p else p.handResource (p.state.provideRateLimiter settings)

def run (settings : AppSettings) (validKey : String → Bool) (events : List ProcessEvent) : Process :=
  events.foldl (step settings validKey) init

end Process

/-! ### A started container -/

namespace Container

variable {settings : Settings} {up : StartupFates}

/-- What a startup that returned has built. -/
structure Built (settings : Settings) (c : Container) : Prop where
  started : c.started = true
  fit : c.Fit settings
  owned : Each Held.Owned c
  pool : c.pool = if settings.startupConnectDatabase then Held.empty.opens else Held.empty
  http : c.http = if gotrueConfigured settings then Held.empty.opens else Held.empty
  redis : c.redis = if settings.startupConnectRedis then Held.empty.opens else Held.empty
  jwksClient : c.jwksClient = truthy settings.supabaseJwksUrl
  authorizationService : c.authorizationService = settings.startupLoadCasbin

/-- From `P`, a stage that returns ends in `Q`. -/
def Passes (P : Container → Prop) (m : Lifecycle Unit) (Q : Container → Prop) : Prop :=
  ∀ c, P c → returned (m.run c) = true → Q (reached (m.run c))

private theorem Passes.bind {P Q R : Container → Prop} {m : Lifecycle Unit} {k : Unit → Lifecycle Unit}
    (hm : Passes P m Q)
    (hk : Passes Q (k ()) R) : Passes P (m >>= k) R := by
  intro c hc hr
  rw [returned_bind, Bool.and_eq_true_iff] at hr
  rw [reached_bind, if_pos hr.1]
  exact hk _ (hm c hc hr.1) hr.2

/-- What the fields without a resource hold between two stages. -/
structure Clients (jwksClient authorizationService : Bool) (c : Container) : Prop where
  redis : c.redis.Sound
  jwks : c.jwksClient = jwksClient
  authorization : c.authorizationService = authorizationService

private theorem startup_clients (hr : returned ((startup settings up).run init) = true) :
    Clients (truthy settings.supabaseJwksUrl) settings.startupLoadCasbin
      (reached ((startup settings up).run init)) := by
  have hdatabase : Passes (fun c => c.pool.Sound ∧ Clients false false c) (startDatabase settings up)
      (Clients false false) := by
    rintro c ⟨hpool, hc⟩ -
    rw [(startDatabase_spec settings up c hpool).1]
    exact ⟨hc.redis, hc.jwks, hc.authorization⟩
  have hgotrue : Passes (Clients false false) (startGotrue settings) (Clients false false) := by
    rintro c hc -
    rw [startGotrue_spec]
    exact ⟨hc.redis, hc.jwks, hc.authorization⟩
  have hjwks : Passes (Clients false false) (startJwks settings up)
      (Clients (truthy settings.supabaseJwksUrl) false) := by
    rintro c hc -
    rw [(startJwks_spec settings up c).1]
    refine ⟨hc.redis, ?_, hc.authorization⟩
    show (_ || c.jwksClient) = _
    rw [hc.jwks, Bool.or_false]
  have hredis : Passes (Clients (truthy settings.supabaseJwksUrl) false) (startRedis settings up)
      (Clients (truthy settings.supabaseJwksUrl) false) := by
    rintro c hc -
    rw [(startRedis_spec settings up c hc.redis).1]
    exact ⟨Held.attempt_sound hc.redis _ _ _, hc.jwks, hc.authorization⟩
  have hcasbin : Passes (Clients (truthy settings.supabaseJwksUrl) false) (startCasbin settings up)
      (Clients (truthy settings.supabaseJwksUrl) settings.startupLoadCasbin) := by
    intro c hc hr
    unfold startCasbin at hr ⊢
    cases hflag : settings.startupLoadCasbin with
    | false => exact hc
    | true =>
      rw [hflag] at hr
      cases hload : up.loadCasbin with
      | none => exact ⟨hc.redis, hc.jwks, rfl⟩
      | some exc =>
        rw [hload] at hr
        cases hr
  have hcelery : Passes (Clients (truthy settings.supabaseJwksUrl) settings.startupLoadCasbin) (startCelery settings)
      (Clients (truthy settings.supabaseJwksUrl) settings.startupLoadCasbin) := by
    intro c hc hr
    rcases startCelery_spec settings c with h | ⟨e, h⟩
    · exact h ▸ hc
    · rw [h] at hr
      cases hr
  rw [startup_idle settings up rfl] at hr ⊢
  refine (hdatabase.bind (hgotrue.bind (hjwks.bind (hredis.bind (hcasbin.bind (hcelery.bind
    fun c hc _ => ⟨hc.redis, hc.jwks, hc.authorization⟩)))))) init ⟨Held.empty_sound, Held.empty_sound, rfl, rfl⟩ hr

/-- A startup that returned has built what the settings ask for. -/
private theorem startup_built (hr : returned ((startup settings up).run init) = true) :
    Built settings (reached ((startup settings up).run init)) := by
  obtain ⟨hpool, hhttp, hredis, hpasses⟩ := startup_spec settings up (c := init) rfl Held.empty_sound Held.empty_sound
  have hstarted := startup_returned hr
  obtain ⟨hp, hj, hrd⟩ := hpasses hstarted
  have hclients := startup_clients hr
  have hpool' : (reached ((startup settings up).run init)).pool =
      if settings.startupConnectDatabase then Held.empty.opens else Held.empty := by
    rw [hpool]
    cases hflag : settings.startupConnectDatabase with
    | false =>
      rw [poolAsked, hflag]
      rfl
    | true =>
      obtain ⟨hasked, hcreated⟩ := poolPasses_wanted hp hflag
      rw [hasked, hcreated]
      rfl
  have hredis' : (reached ((startup settings up).run init)).redis =
      if settings.startupConnectRedis then Held.empty.opens else Held.empty := by
    rw [hredis, hp, hj]
    cases hflag : settings.startupConnectRedis with
    | false =>
      rw [redisAsked, hflag]
      rfl
    | true =>
      obtain ⟨hasked, hpinged⟩ := redisPasses_wanted hrd hflag
      rw [hasked, hpinged]
      rfl
  have htidy : Tidy settings init (.startup up) := by
    refine fun _ => ⟨fun ha => ?_, fun _ => rfl, fun ha => ?_⟩
    · rw [if_pos (poolPasses_wanted hp (Bool.and_eq_true_iff.1 ha).1).2]
      rfl
    · have hw := (Bool.and_eq_true_iff.1 (Bool.and_eq_true_iff.1 ha).2).1
      rw [if_pos (redisPasses_wanted hrd hw).2]
      rfl
  exact {
    started := hstarted
    fit := startup_fit init_fit rfl
    owned := (startup_owned init_fit init_owned rfl).2 htidy
    pool := hpool'
    http := by
      rw [hhttp, hp]
      cases gotrueConfigured settings <;> rfl
    redis := hredis'
    jwksClient := hclients.jwks
    authorizationService := hclients.authorization }

end Container

/-! ### What the app serves with -/

/-- The resources of lifespan `n` that the settings ask for, and no others. -/
structure AppWiring.Serves (settings : AppSettings) (n : Nat) (state : AppWiring) : Prop where
  transactionManager : state.transactionManager = if settings.startupConnectDatabase then some n else none
  dbPool : state.dbPool = if settings.startupConnectDatabase then some n else none
  supabaseAuthClient : state.supabaseAuthClient = if gotrueConfigured settings.toSettings then some n else none
  jwksClient : state.jwksClient = if truthy settings.supabaseJwksUrl then some n else none
  authorizationService : settings.startupLoadCasbin = true → state.authorizationService = true
  redisClient : state.redisClient = if settings.startupConnectRedis then some n else none
  rateLimiter : state.rateLimiter = if settings.startupConnectRedis then some n else none

/-- The log of an adapter that is kept on `app.state`: all are over the pool of the lifespan of the first. -/
structure Process.Handed (settings : AppSettings) (p : Process) (kept : Option Nat)
    (log : List HandedOut) : Prop where
  first : kept = log.head?.map HandedOut.lifespan
  pool : ∀ x ∈ log, some x.pool = kept
  old : ∀ x ∈ log, x.pool ≤ x.lifespan ∧ x.lifespan < (p.ended ++ p.serving.toList).length
  asked : log ≠ [] → settings.startupConnectDatabase = true
  opened : ∀ x ∈ log, x.poolOpen = true ↔ x.lifespan = x.pool ∨ ∃ c, p.ended[x.pool]? = some c ∧ c.started = true

structure Process.Wired (settings : AppSettings) (p : Process) : Prop where
  serving : ∀ c, p.serving = some c → Built settings.toSettings c ∧ p.state.Serves settings p.ended.length
  /-- the pool of a lifespan that has ended is open if the shutdown raised -/
  ended : ∀ c ∈ p.ended, c.pool.opened ≠ ∅ ↔ c.started = true ∧ settings.startupConnectDatabase = true
  repositories : p.Handed settings p.state.sessionRepository p.repositories
  mappers : p.Handed settings p.state.identityMapper p.mappers
  resources : ∀ x ∈ p.resources, x.1 = x.2

namespace Process

variable {settings : AppSettings} {validKey : String → Bool} {p : Process} {c : Container} {kept : Option Nat}
  {log : List HandedOut}

private theorem pool_opened_of_built (h : Built settings.toSettings c) :
    c.pool.opened ≠ ∅ ↔ settings.startupConnectDatabase = true := by
  rw [h.pool]
  cases settings.startupConnectDatabase with
  | false => simp [Held.empty]
  | true => simp

/-- `lifespan` exposes what was built. -/
private theorem expose_serves (h : Built settings.toSettings c) (state : AppWiring) (n : Nat) :
    (state.expose n c).Serves settings n where
  transactionManager := by
    rw [AppWiring.expose, h.pool]
    cases settings.startupConnectDatabase <;> rfl
  dbPool := by
    rw [AppWiring.expose, h.pool]
    cases settings.startupConnectDatabase <;> rfl
  supabaseAuthClient := by
    rw [AppWiring.expose, h.http]
    cases gotrueConfigured settings.toSettings <;> rfl
  jwksClient := by rw [AppWiring.expose, h.jwksClient]
  authorizationService := fun hload => h.authorizationService.trans hload
  redisClient := by
    rw [AppWiring.expose, h.redis]
    cases settings.startupConnectRedis <;> rfl
  rateLimiter := by
    rw [AppWiring.expose, h.redis]
    cases settings.startupConnectRedis <;> rfl

/-! ### The adapters that are kept -/

/-- The lifespans that have ended stay as they are. -/
private theorem Handed.mono {p' : Process} (h : p.Handed settings kept log)
    (hended : ∀ n < p.ended.length, p'.ended[n]? = p.ended[n]?)
    (hlen : (p.ended ++ p.serving.toList).length ≤ (p'.ended ++ p'.serving.toList).length) :
    p'.Handed settings kept log where
  first := h.first
  pool := h.pool
  old x hx := ⟨(h.old x hx).1, (h.old x hx).2.trans_le hlen⟩
  asked := h.asked
  opened x hx := by
    rw [h.opened x hx]
    by_cases hsame : x.lifespan = x.pool
    · simp [hsame]
    · obtain ⟨hle, hlt⟩ := h.old x hx
      have hserving : p.serving.toList.length ≤ 1 := by cases p.serving <;> simp
      rw [List.length_append] at hlt
      rw [hended x.pool (by omega)]

/-- The container of the lifespan that is served, and those of the lifespans before it. -/
private theorem containerOf_serving (hs : p.serving = some c) : p.containerOf p.ended.length = some c := by
  simp [containerOf, hs]

private theorem containerOf_ended {n : Nat} (hn : n < p.ended.length) : p.containerOf n = p.ended[n]? :=
  List.getElem?_append_left hn

/-- One more request is handed what is kept, or the first adapter over the pool of the lifespan. -/
private theorem Handed.hand (h : p.Handed settings kept log) (hs : p.serving = some c)
    (hb : Built settings.toSettings c)
    (hended : ∀ c ∈ p.ended, c.pool.opened ≠ ∅ ↔ c.started = true ∧
      settings.startupConnectDatabase = true) {pool : Nat}
    (hpool : kept = some pool ∨ kept = none ∧ pool = p.ended.length ∧ settings.startupConnectDatabase = true) :
    p.Handed settings (some pool) (log ++ [p.handedOut pool]) := by
  have hlen : (p.ended ++ p.serving.toList).length = p.ended.length + 1 := by simp [hs]
  have hasked : settings.startupConnectDatabase = true := by
    rcases hpool with hkept | ⟨-, -, hflag⟩
    · refine h.asked ?_
      rintro rfl
      rw [h.first] at hkept
      cases hkept
    · exact hflag
  have hle : pool ≤ p.ended.length := by
    rcases hpool with hkept | ⟨-, rfl, -⟩
    · have hfirst := h.first
      rw [hkept] at hfirst
      obtain ⟨x, hx, hlifespan⟩ := Option.map_eq_some_iff.1 hfirst.symm
      have hold := (h.old x (List.mem_of_head? hx)).2
      omega
    · exact le_rfl
  -- which adapter came first, that all have one pool, when it was made, and whether it is open
  refine ⟨?_, ?_, ?_, fun _ => hasked, ?_⟩
  · rcases hpool with hkept | ⟨hkept, rfl, -⟩
    · rw [← hkept, h.first]
      cases log with
      | nil =>
        rw [h.first] at hkept
        cases hkept
      | cons x log => rfl
    · cases log with
      | nil => rfl
      | cons x log =>
        rw [h.first] at hkept
        cases hkept
  · intro x hx
    rcases List.mem_append.1 hx with hx | hx
    · rcases hpool with hkept | ⟨hkept, -, -⟩
      · exact (h.pool x hx).trans hkept
      · have hx := h.pool x hx
        rw [hkept] at hx
        cases hx
    · obtain rfl := List.mem_singleton.1 hx
      rfl
  · intro x hx
    rcases List.mem_append.1 hx with hx | hx
    · exact h.old x hx
    · obtain rfl := List.mem_singleton.1 hx
      exact ⟨hle, by rw [hlen]; exact Nat.lt_succ_self _⟩
  · intro x hx
    rcases List.mem_append.1 hx with hx | hx
    · exact h.opened x hx
    · obtain rfl := List.mem_singleton.1 hx
      show (p.containerOf pool).any _ = true ↔
        p.ended.length = pool ∨ ∃ c, p.ended[pool]? = some c ∧ c.started = true
      -- the pool of a lifespan that has ended, or of this one
      rcases Nat.lt_or_eq_of_le hle with hlt | rfl
      · rw [containerOf_ended hlt, List.getElem?_eq_getElem hlt]
        have hopen := hended _ (List.getElem_mem hlt)
        simp only [Option.any_some, decide_eq_true_eq, hopen, hasked, and_true, Option.some.injEq, exists_eq_left']
        constructor
        · exact Or.inr
        · rintro (he | hc)
          · omega
          · exact hc
      · rw [containerOf_serving hs]
        simp [pool_opened_of_built hb, hasked]

/-! ### The steps -/

/-- A provider of a kept adapter raises, hands out what is kept, or keeps and hands out a new one over the pool. -/
def Provides (kept dbPool : Option Nat) (answer kept' : Option Nat) : Prop :=
  (answer = none ∧ kept' = kept) ∨ (∃ n, answer = some n ∧ kept = some n ∧ kept' = some n) ∨
    ∃ n, answer = some n ∧ kept = none ∧ dbPool = some n ∧ kept' = some n

private theorem provideSessionRepository_spec (settings : AppSettings) (validKey : String → Bool)
    (state : AppWiring) :
    ∃ kept', (state.provideSessionRepository settings validKey).2 = { state with sessionRepository := kept' } ∧
      Provides state.sessionRepository state.dbPool (state.provideSessionRepository settings validKey).1 kept' := by
  obtain ⟨_, dbPool, _, _, _, _, _, sessionRepository, _, _⟩ := state
  unfold AppWiring.provideSessionRepository AppWiring.requirePool
  cases sessionRepository with
  | some existing => exact ⟨some existing, rfl, Or.inr (Or.inl ⟨existing, rfl, rfl, rfl⟩)⟩
  | none =>
    dsimp only
    split
    · cases dbPool with
      | none => exact ⟨none, rfl, Or.inl ⟨rfl, rfl⟩⟩
      | some pool => exact ⟨some pool, rfl, Or.inr (Or.inr ⟨pool, rfl, rfl, rfl, rfl⟩)⟩
    · exact ⟨none, rfl, Or.inl ⟨rfl, rfl⟩⟩

private theorem provideIdentityMapper_spec (state : AppWiring) :
    ∃ kept', state.provideIdentityMapper.2 = { state with identityMapper := kept' } ∧
      Provides state.identityMapper state.dbPool state.provideIdentityMapper.1 kept' := by
  obtain ⟨_, dbPool, _, _, _, _, _, _, identityMapper, _⟩ := state
  cases identityMapper with
  | some existing => exact ⟨some existing, rfl, Or.inr (Or.inl ⟨existing, rfl, rfl, rfl⟩)⟩
  | none =>
    cases dbPool with
    | none => exact ⟨none, rfl, Or.inl ⟨rfl, rfl⟩⟩
    | some pool => exact ⟨some pool, rfl, Or.inr (Or.inr ⟨pool, rfl, rfl, rfl, rfl⟩)⟩

private theorem provideJwtVerifier_spec (settings : AppSettings) (state : AppWiring) :
    ∃ kept', (state.provideJwtVerifier settings).2 = { state with jwtVerifier := kept' } := by
  unfold AppWiring.provideJwtVerifier
  split
  · exact ⟨_, rfl⟩
  · split
    · exact ⟨_, rfl⟩
    · exact ⟨_, rfl⟩

/-- The resources of the lifespan are not what is kept. -/
private theorem serves_of_resources {n : Nat} {state : AppWiring} (h : state.Serves settings n)
    (sessionRepository identityMapper jwtVerifier : Option Nat) {authorizationService : Bool}
    (hload : settings.startupLoadCasbin = true → authorizationService = true) :
    AppWiring.Serves settings n { state with authorizationService, sessionRepository, identityMapper, jwtVerifier } :=
  ⟨h.transactionManager, h.dbPool, h.supabaseAuthClient, h.jwksClient, hload, h.redisClient, h.rateLimiter⟩

/-- A step of a request changes what is kept, and logs it. -/
private theorem Wired.request (h : p.Wired settings) {sessionRepository identityMapper jwtVerifier : Option Nat}
    {authorizationService : Bool}
    (hload : settings.startupLoadCasbin = true → p.state.authorizationService = true → authorizationService = true)
    {repositories mappers : List HandedOut} (hrepositories : p.Handed settings sessionRepository repositories)
    (hmappers : p.Handed settings identityMapper mappers) :
    Wired settings { p with
      state := { p.state with authorizationService, sessionRepository, identityMapper, jwtVerifier }
      repositories, mappers } where
  serving c hs := by
    obtain ⟨hb, hserves⟩ := h.serving c hs
    exact ⟨hb, serves_of_resources hserves _ _ _ fun hflag => hload hflag (hserves.authorizationService hflag)⟩
  ended := h.ended
  repositories := hrepositories.mono (fun _ _ => rfl) le_rfl
  mappers := hmappers.mono (fun _ _ => rfl) le_rfl
  resources := h.resources

/-- What a provider of a kept adapter answers is logged. -/
private theorem Wired.provides (h : p.Wired settings) (hs : p.serving = some c) (hlog : p.Handed settings kept log)
    {answer kept' : Option Nat} (hp : Provides kept p.state.dbPool answer kept') :
    p.Handed settings kept' (log ++ (answer.map p.handedOut).toList) := by
  obtain ⟨hb, hserves⟩ := h.serving c hs
  rcases hp with ⟨rfl, rfl⟩ | ⟨n, rfl, hkept, rfl⟩ | ⟨n, rfl, hkept, hpool, rfl⟩
  · simpa using hlog
  · exact hlog.hand hs hb h.ended (Or.inl hkept)
  · rw [hserves.dbPool] at hpool
    cases hflag : settings.startupConnectDatabase with
    | false =>
      rw [hflag] at hpool
      cases hpool
    | true =>
      rw [hflag] at hpool
      exact hlog.hand hs hb h.ended (Or.inr ⟨hkept, (Option.some.inj hpool).symm, hflag⟩)

private theorem handed_nil (settings : AppSettings) (p : Process) : p.Handed settings none [] where
  first := rfl
  pool x hx := by cases hx
  old x hx := by cases hx
  asked hne := absurd rfl hne
  opened x hx := by cases hx

private theorem wired_init : init.Wired settings where
  serving c hs := by cases hs
  ended c hc := by cases hc
  repositories := handed_nil settings init
  mappers := handed_nil settings init
  resources x hx := by cases hx

/-- A shutdown closes the pool, or raises before it has touched the pool. -/
private theorem ended_of_shutdown (hb : Built settings.toSettings c) (down : ShutdownFates) :
    (reached ((shutdown down).run c)).pool.opened ≠ ∅ ↔
      (reached ((shutdown down).run c)).started = true ∧ settings.startupConnectDatabase = true := by
  have hleak := shutdown_owned down hb.fit hb.owned hb.started
  rcases shutdown_cases down hb.started with h | h
  · have hempty := (hleak.2 down rfl h.returned).1
    have hempty : (reached ((shutdown down).run c)).pool.opened = ∅ := hempty
    simp [hempty, h.started]
  · rw [h.pool, h.started, pool_opened_of_built hb]
    simp

private theorem Wired.leave (h : p.Wired settings) (hs : p.serving = some c) (hb : Built settings.toSettings c)
    (down : ShutdownFates) (state : AppWiring) (hrepository : state.sessionRepository = p.state.sessionRepository)
    (hmapper : state.identityMapper = p.state.identityMapper) :
    Wired settings { p with ended := p.ended ++ [reached ((shutdown down).run c)], serving := none, state } := by
  have hended : ∀ n < p.ended.length,
      (p.ended ++ [reached ((shutdown down).run c)])[n]? = p.ended[n]? := fun n hn => List.getElem?_append_left hn
  have hlen : (p.ended ++ p.serving.toList).length ≤
      ((p.ended ++ [reached ((shutdown down).run c)]) ++ (none : Option Container).toList).length := by simp [hs]
  exact {
    serving := fun c hc => by cases hc
    ended := by
      intro c' hc'
      rcases List.mem_append.1 hc' with hc' | hc'
      · exact h.ended c' hc'
      · obtain rfl := List.mem_singleton.1 hc'
        exact ended_of_shutdown hb down
    repositories := by
      show Handed settings _ state.sessionRepository _
      rw [hrepository]
      exact h.repositories.mono hended hlen
    mappers := by
      show Handed settings _ state.identityMapper _
      rw [hmapper]
      exact h.mappers.mono hended hlen
    resources := h.resources }

/-- What the app serves with is of the lifespan. -/
private theorem Wired.handResource (h : p.Wired settings) {resource : Option Nat}
    (hresource : ∀ n ∈ resource, n = p.ended.length) : (p.handResource resource).Wired settings where
  serving := h.serving
  ended := h.ended
  repositories := h.repositories.mono (fun _ _ => rfl) le_rfl
  mappers := h.mappers.mono (fun _ _ => rfl) le_rfl
  resources := by
    intro x hx
    rcases List.mem_append.1 hx with hx | hx
    · exact h.resources x hx
    · rw [Option.mem_toList] at hx
      obtain ⟨n, hn, rfl⟩ := Option.map_eq_some_iff.1 hx
      exact (hresource n hn).symm

private theorem eq_of_asked {flag : Bool} {n k : Nat} {resource : Option Nat}
    (h : resource = if flag then some n else none) (hk : k ∈ resource) : k = n := by
  subst h
  cases flag with
  | false => cases hk
  | true => exact (Option.some.inj hk).symm

private theorem Wired.step (h : p.Wired settings) (event : ProcessEvent) :
    (p.step settings validKey event).Wired settings := by
  cases event with
  | enter up =>
    unfold Process.step
    cases hs : p.serving with
    | some c => exact h
    | none =>
      dsimp only
      -- a startup that fails never gets to `app.state`
      cases hup : (startup settings.toSettings up).run Container.init with
      | error e c => exact h
      | ok _ c =>
        have hb : Built settings.toSettings c := by
          have hbuilt : Built settings.toSettings (reached ((startup settings.toSettings up).run Container.init)) :=
            startup_built (by rw [hup]; rfl)
          rw [hup] at hbuilt
          exact hbuilt
        have hlen : (p.ended ++ p.serving.toList).length ≤ (p.ended ++ (some c).toList).length := by simp [hs]
        exact {
          serving := by
            rintro c' hc'
            obtain rfl := Option.some.inj hc'
            exact ⟨hb, expose_serves hb p.state p.ended.length⟩
          ended := h.ended
          repositories := h.repositories.mono (fun _ _ => rfl) hlen
          mappers := h.mappers.mono (fun _ _ => rfl) hlen
          resources := h.resources }
  | leave down =>
    unfold Process.step
    cases hs : p.serving with
    | none => exact h
    | some c =>
      dsimp only
      have hleave := fun state => h.leave hs (h.serving c hs).1 down state
      -- a shutdown that fails leaves `app.state` uncleared
      cases hdown : (shutdown down).run c with
      | error e c' =>
        rw [hdown] at hleave
        exact hleave p.state rfl rfl
      | ok _ c' =>
        rw [hdown] at hleave
        exact hleave p.state.clear rfl rfl
  | sessionRepository =>
    rw [Process.step]
    cases hs : p.serving with
    | none => exact h
    | some c =>
      obtain ⟨kept', hstate, hp⟩ := provideSessionRepository_spec settings validKey p.state
      rw [if_neg (by simp)]
      dsimp only
      rw [hstate, ← hs]
      exact h.request (fun _ => id) (h.provides hs h.repositories hp) h.mappers
  | identityMapper =>
    rw [Process.step]
    cases hs : p.serving with
    | none => exact h
    | some c =>
      obtain ⟨kept', hstate, hp⟩ := provideIdentityMapper_spec p.state
      rw [if_neg (by simp)]
      dsimp only
      rw [hstate, ← hs]
      exact h.request (fun _ => id) h.repositories (h.provides hs h.mappers hp)
  | authorizationService loads =>
    rw [Process.step]
    cases hs : p.serving with
    | none => exact h
    | some c =>
      rw [if_neg (by simp), AppWiring.provideAuthorizationService, ← hs]
      split
      · exact h
      · rename_i hnone
        exact h.request (fun _ hauthorization => absurd hauthorization hnone) h.repositories h.mappers
  | jwtVerifier =>
    rw [Process.step]
    cases hs : p.serving with
    | none => exact h
    | some c =>
      obtain ⟨kept', hstate⟩ := provideJwtVerifier_spec settings p.state
      rw [if_neg (by simp), hstate, ← hs]
      exact h.request (fun _ => id) h.repositories h.mappers
  | transactionManager =>
    rw [Process.step]
    cases hs : p.serving with
    | none => exact h
    | some c =>
      rw [if_neg (by simp)]
      exact h.handResource fun n hn => eq_of_asked (h.serving c hs).2.transactionManager hn
  | supabaseAuthClient =>
    rw [Process.step]
    cases hs : p.serving with
    | none => exact h
    | some c =>
      rw [if_neg (by simp)]
      exact h.handResource fun n hn => eq_of_asked (h.serving c hs).2.supabaseAuthClient hn
  | rateLimiter =>
    rw [Process.step]
    cases hs : p.serving with
    | none => exact h
    | some c =>
      rw [if_neg (by simp)]
      refine h.handResource fun n hn => eq_of_asked (h.serving c hs).2.rateLimiter ?_
      unfold AppWiring.provideRateLimiter at hn
      split at hn
      · exact hn
      · cases hn

theorem wired_run (settings : AppSettings) (validKey : String → Bool) (events : List ProcessEvent) :
    (run settings validKey events).Wired settings := by
  have hrun : ∀ (events : List ProcessEvent) (p : Process), p.Wired settings →
      (events.foldl (step settings validKey) p).Wired settings := by
    intro events
    induction events with
    | nil => exact fun p h => h
    | cons event events ih => exact fun p h => ih _ (h.step event)
  exact hrun events init wired_init

end Process

/-- Over every sequence of lifespans of one app, with startups and shutdowns that may raise, and of requests in them:
the resources of `app.state` that requests are handed are those of their own lifespan; but all session repositories
are over the pool of the lifespan in which the first was handed out, and so are all identity mappers, and that pool is
open in that lifespan, and later on only if the shutdown of that lifespan raised. -/
theorem adapters_outlive_lifespan (settings : AppSettings) (validKey : String → Bool) (events : List ProcessEvent) :
    let p := Process.run settings validKey events
    (∀ x ∈ p.resources, x.1 = x.2) ∧
      ∀ log ∈ [p.repositories, p.mappers], (∀ x ∈ log, some x.pool = log.head?.map HandedOut.lifespan) ∧
        ∀ x ∈ log, x.poolOpen = true ↔ x.lifespan = x.pool ∨ ∃ c, p.ended[x.pool]? = some c ∧ c.started = true := by
  intro p
  have h := Process.wired_run settings validKey events
  have hhanded : ∀ {kept log}, p.Handed settings kept log →
      (∀ x ∈ log, some x.pool = log.head?.map HandedOut.lifespan) ∧
        ∀ x ∈ log, x.poolOpen = true ↔ x.lifespan = x.pool ∨ ∃ c, p.ended[x.pool]? = some c ∧ c.started = true :=
    fun hh => ⟨fun x hx => (hh.pool x hx).trans hh.first, hh.opened⟩
  refine ⟨h.resources, fun log hlog => ?_⟩
  simp only [List.mem_cons, List.not_mem_nil, or_false] at hlog
  rcases hlog with rfl | rfl
  · exact hhanded h.repositories
  · exact hhanded h.mappers

end CleanBackend
