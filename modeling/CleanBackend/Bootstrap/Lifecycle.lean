import CleanBackend.Bootstrap.Container

/-!
# What the container leaves open

After a startup that raised, `_started` is not set: `shutdown` returns at once and releases nothing, and the next
`startup` puts new objects over the fields.  So the container is tidy (`Container.Tidy`) only while each startup opens
nothing that is open already and leaves nothing behind, and each shutdown of a container that is not started finds
nothing open.  A run keeps what is open in the fields, and has nothing open after its shutdowns, exactly when its
calls are tidy.  The `lifespan` of `create_app` is one startup and one shutdown: a process in which neither raises
leaves nothing open (`lifespan_releases`).
-/

namespace CleanBackend

namespace Container

variable {settings : Settings} {c : Container}

/-- A property of each of the three things. -/
def Each (P : Held → Prop) (c : Container) : Prop := P c.pool ∧ P c.http ∧ P c.redis

/-- What is open is what the fields lead to, and nothing is open after a shutdown that returned. -/
def NoLeak (settings : Settings) (c : Container) (a : Call) : Prop :=
  let result := (call settings a).run c
  Each Held.Owned (reached result) ∧
    ∀ fates, a = .shutdown fates → returned result = true → Each (fun h => h.opened = ∅) (reached result)

/-- A startup opens nothing that is open already and leaves nothing behind, and a shutdown of a container that is not
started finds nothing open. -/
def Tidy (settings : Settings) (c : Container) : Call → Prop
  | .startup fates =>
    c.started = false →
      c.pool.Admits (poolAsked settings) fates.createPool.isNone fates.createPoolLeaves ∧
        c.http.Admits (poolPasses settings fates && gotrueConfigured settings) true false ∧
        c.redis.Admits (poolPasses settings fates && jwksPasses settings fates && redisAsked settings)
          fates.ping.isNone fates.pingLeaves
  | .shutdown _ => c.started = false → Each (fun h => h.opened = ∅) c

/-- What holds of the container whatever is open. -/
structure Fit (settings : Settings) (c : Container) : Prop where
  pool : c.pool.Fit c.started settings.startupConnectDatabase
  http : c.http.Fit c.started (gotrueConfigured settings)
  redis : c.redis.Fit c.started settings.startupConnectRedis

theorem init_fit : init.Fit settings := ⟨Held.empty_fit, Held.empty_fit, Held.empty_fit⟩

theorem init_owned : Each Held.Owned init := by
  have h : Held.empty.Owned := fun o => by simp [Held.empty]
  exact ⟨h, h, h⟩

/-! ### Startup -/

theorem startup_fit {fates : StartupFates} (hf : c.Fit settings) (hn : c.started = false) :
    (reached ((startup settings fates).run c)).Fit settings := by
  obtain ⟨hpool, hhttp, hredis, hup⟩ := startup_spec settings fates hn hf.pool.sound hf.redis.sound
  generalize reached ((startup settings fates).run c) = c' at hpool hhttp hredis hup
  refine ⟨?_, ?_, ?_⟩
  · rw [hpool]
    exact Held.Fit.attempt (hn ▸ hf.pool) _ (fun ha => (Bool.and_eq_true_iff.1 ha).1)
      fun hl hw => poolPasses_wanted (hup hl).1 hw
  · rw [hhttp]
    refine Held.Fit.attempt (hn ▸ hf.http) _ (fun ha => (Bool.and_eq_true_iff.1 ha).2) fun hl hw => ⟨?_, rfl⟩
    rw [(hup hl).1, hw]
    rfl
  · rw [hredis]
    refine Held.Fit.attempt (hn ▸ hf.redis) _ (fun ha => ?_) fun hl hw => ?_
    · exact (Bool.and_eq_true_iff.1 (Bool.and_eq_true_iff.1 ha).2).1
    · obtain ⟨hp, hj, hr⟩ := hup hl
      obtain ⟨ha, hs⟩ := redisPasses_wanted hr hw
      rw [hp, hj, ha]
      exact ⟨rfl, hs⟩

/-- A startup of a container that is not started keeps the ownership exactly when it is tidy. -/
theorem startup_owned {fates : StartupFates} (hf : c.Fit settings) (ho : Each Held.Owned c) (hn : c.started = false) :
    Each Held.Owned (reached ((startup settings fates).run c)) ↔ Tidy settings c (.startup fates) := by
  obtain ⟨hpool, hhttp, hredis, -⟩ := startup_spec settings fates hn hf.pool.sound hf.redis.sound
  unfold Each Tidy
  rw [hpool, hhttp, hredis, Held.attempt_owned hf.pool.sound (hf.pool.idle hn) ho.1,
    Held.attempt_owned hf.http.sound (hf.http.idle hn) ho.2.1,
      Held.attempt_owned hf.redis.sound (hf.redis.idle hn) ho.2.2]
  exact ⟨fun h _ => h, fun h => h hn⟩

private theorem returned_of_bind {P : Container → Prop} {m : Lifecycle Unit} {k : Unit → Lifecycle Unit}
    (hk : ∀ c, returned ((k ()).run c) = true → P (reached ((k ()).run c))) (c : Container)
    (h : returned ((m >>= k).run c) = true) : P (reached ((m >>= k).run c)) := by
  rw [returned_bind, Bool.and_eq_true_iff] at h
  rw [reached_bind, if_pos h.1]
  exact hk _ h.2

theorem startup_returned {fates : StartupFates} (h : returned ((startup settings fates).run c) = true) :
    (reached ((startup settings fates).run c)).started = true := by
  cases hs : c.started with
  | true =>
    rw [startup_started _ _ hs]
    exact hs
  | false =>
    rw [startup_idle _ _ hs] at h ⊢
    refine returned_of_bind (P := fun c => c.started = true) ?_ c h
    iterate 5 refine returned_of_bind (P := fun c => c.started = true) ?_
    exact fun _ _ => rfl

/-! ### Shutdown -/

/-- A release closes what the first field leads to, or raises and changes nothing. -/
private theorem Slot.release_cases (slot : Slot) (raises : Option PyException) :
    (slot.release raises).run c = .ok () (slot.put c (slot.held c).close) ∨
      ∃ e, (slot.release raises).run c = .error e c := by
  have hsame : .ok () c = EStateM.Result.ok (ε := LifecycleError) ()
      (slot.put c (slot.held c)) := by rw [slot.put_held]
  unfold Slot.release Held.close
  rw [EStateM.run_bind, EStateM.run_get]
  dsimp only
  cases hown : (slot.held c).owner with
  | none => exact Or.inl hsame
  | some o =>
    dsimp only
    rw [EStateM.run_bind, EStateM.run_get]
    dsimp only
    by_cases hc : o ∈ (slot.held c).connected
    · rw [if_pos hc, if_pos hc]
      cases raises with
      | none => exact Or.inl rfl
      | some exc => exact Or.inr ⟨_, rfl⟩
    · rw [if_neg hc, if_neg hc]
      exact Or.inl hsame

/-- With the fields cleared after it, a release closes the thing and the shutdown goes on, or the shutdown ends there.
-/
private theorem Slot.release_drop_cases (slot : Slot) (raises : Option PyException) (k : Unit → Lifecycle Unit) :
    (slot.release raises >>= fun _ => slot.update Held.drop >>= k).run c =
        (k ()).run (slot.put c (slot.held c).close.drop) ∨
      ∃ e, (slot.release raises >>= fun _ => slot.update Held.drop >>= k).run c = .error e c := by
  rw [EStateM.run_bind]
  rcases slot.release_cases (c := c) raises with h | ⟨e, h⟩
  · rw [h]
    refine Or.inl ?_
    show (k ()).run (slot.put (slot.put c _) (slot.held (slot.put c _)).drop) = _
    rw [slot.held_put, slot.put_put]
  · rw [h]
    exact Or.inr ⟨e, rfl⟩

section Shutdown

variable (fates : ShutdownFates)

private theorem shutdown_idle (hn : c.started = false) : (shutdown fates).run c = .ok () c := by
  unfold shutdown
  rw [EStateM.run_bind, EStateM.run_get]
  simp only [hn]
  rfl

private theorem shutdown_started (hs : c.started = true) :
    (shutdown fates).run c =
      (closeHttp fates >>= fun _ => httpSlot.update Held.drop >>= fun _ =>
        modify (fun c => { c with jwksClient := false, authorizationService := false, casbinEnforcer := false }) >>=
          fun _ => redisSlot.update Held.dropUser >>= fun _ => disconnectRedis fates >>= fun _ =>
            redisSlot.update Held.drop >>= fun _ => disconnectPool fates >>= fun _ => poolSlot.update Held.drop >>=
              fun _ => modify fun c => { c with started := false }).run c := by
  unfold shutdown
  rw [EStateM.run_bind, EStateM.run_get]
  simp only [hs]
  rfl

/-- All three things were released. -/
structure Released (c : Container) (result : EStateM.Result LifecycleError Container Unit) : Prop where
  returned : returned result = true
  started : (reached result).started = false
  http : (reached result).http = c.http.close.drop
  redis : (reached result).redis = c.redis.dropUser.close.drop
  pool : (reached result).pool = c.pool.close.drop

/-- A release raised: what came before it was released, and the container is still started. -/
structure Interrupted (c : Container) (result : EStateM.Result LifecycleError Container Unit) : Prop where
  returned : returned result = false
  started : (reached result).started = true
  http : (reached result).http = c.http ∨ (reached result).http = c.http.close.drop
  redis : (reached result).redis = c.redis ∨ (reached result).redis = c.redis.dropUser ∨
    (reached result).redis = c.redis.dropUser.close.drop
  pool : (reached result).pool = c.pool

theorem shutdown_cases (hs : c.started = true) :
    Released c ((shutdown fates).run c) ∨ Interrupted c ((shutdown fates).run c) := by
  rw [shutdown_started fates hs]
  unfold closeHttp disconnectRedis disconnectPool
  rcases httpSlot.release_drop_cases (c := c) fates.closeHttp _ with h₁ | ⟨e, h₁⟩
  · rw [h₁]
    -- the fields that are cleared between the first release and the second
    let c₁ : Container := ⟨c.pool, c.http.close.drop, c.redis.dropUser, false, false, false, c.started⟩
    have hgo : ∀ k : Unit → Lifecycle Unit,
        (modify (fun c : Container =>
            { c with jwksClient := false, authorizationService := false, casbinEnforcer := false }) >>=
          fun _ => redisSlot.update Held.dropUser >>= k).run (httpSlot.put c (httpSlot.held c).close.drop) =
        (k ()).run c₁ := fun _ => rfl
    rw [hgo]
    rcases redisSlot.release_drop_cases (c := c₁) fates.closeRedis _ with h₂ | ⟨e, h₂⟩
    · rw [h₂]
      rcases poolSlot.release_drop_cases (c := redisSlot.put c₁ (redisSlot.held c₁).close.drop) fates.closePool _ with
        h₃ | ⟨e, h₃⟩
      · rw [h₃]
        exact Or.inl ⟨rfl, rfl, rfl, rfl, rfl⟩
      · rw [h₃]
        exact Or.inr ⟨rfl, hs, Or.inr rfl, Or.inr (Or.inr rfl), rfl⟩
    · rw [h₂]
      exact Or.inr ⟨rfl, hs, Or.inr rfl, Or.inr (Or.inl rfl), rfl⟩
  · rw [h₁]
    exact Or.inr ⟨rfl, hs, Or.inl rfl, Or.inl rfl, rfl⟩

private theorem shutdown_fit (hf : c.Fit settings) (hs : c.started = true) :
    (reached ((shutdown fates).run c)).Fit settings := by
  have hpool := hs ▸ hf.pool
  have hhttp := hs ▸ hf.http
  have hredis := hs ▸ hf.redis
  rcases shutdown_cases fates hs with h | h
  · exact ⟨h.pool ▸ hpool.close, h.http ▸ hhttp.close, h.redis ▸ hredis.dropUser.close⟩
  · refine ⟨?_, ?_, ?_⟩
    · rw [h.pool, h.started]
      exact hpool
    · rw [h.started]
      rcases h.http with h | h
      · exact h ▸ hhttp
      · exact h ▸ hhttp.close
    · rw [h.started]
      rcases h.redis with h | h | h
      · exact h ▸ hredis
      · exact h ▸ hredis.dropUser
      · exact h ▸ hredis.dropUser.close

/-- A shutdown of a started container keeps the ownership, and nothing is open after one that returned. -/
theorem shutdown_owned (hf : c.Fit settings) (ho : Each Held.Owned c) (hs : c.started = true) :
    NoLeak settings c (.shutdown fates) := by
  have hpool := hs ▸ hf.pool
  have hhttp := hs ▸ hf.http
  have hredis := hs ▸ hf.redis
  obtain ⟨hop, hoh, hor⟩ := ho
  have hor' := Held.dropUser_owned (hredis.live rfl) hor
  rcases shutdown_cases fates hs with h | h
  · refine ⟨⟨?_, ?_, ?_⟩, fun _ _ _ => ⟨?_, ?_, ?_⟩⟩
    · exact h.pool ▸ hpool.close_owned hop
    · exact h.http ▸ hhttp.close_owned hoh
    · exact h.redis ▸ hredis.dropUser.close_owned hor'
    · exact h.pool ▸ Held.close_opened (hpool.live rfl) hop
    · exact h.http ▸ Held.close_opened (hhttp.live rfl) hoh
    · exact h.redis ▸ Held.close_opened (hredis.dropUser.live rfl) hor'
  · refine ⟨⟨?_, ?_, ?_⟩, fun _ _ hr => absurd (h.returned.symm.trans hr) (by decide)⟩
    · exact h.pool ▸ hop
    · rcases h.http with h | h
      · exact h ▸ hoh
      · exact h ▸ hhttp.close_owned hoh
    · rcases h.redis with h | h | h
      · exact h ▸ hor
      · exact h ▸ hor'
      · exact h ▸ hredis.dropUser.close_owned hor'

end Shutdown

/-! ### Runs -/

private theorem call_fit {a : Call} (hf : c.Fit settings) : (reached ((call settings a).run c)).Fit settings := by
  cases hn : c.started with
  | true =>
    cases a with
    | startup fates => exact (startup_started _ _ hn).symm ▸ hf
    | shutdown fates => exact shutdown_fit fates hf hn
  | false =>
    cases a with
    | startup fates => exact startup_fit hf hn
    | shutdown fates => exact (shutdown_idle fates hn).symm ▸ hf

/-- A call leaks nothing exactly when it is tidy. -/
private theorem noLeak_iff {a : Call} (hf : c.Fit settings) (ho : Each Held.Owned c) :
    NoLeak settings c a ↔ Tidy settings c a := by
  cases hn : c.started with
  | true =>
    have htidy : Tidy settings c a := by
      cases a <;> exact fun h => absurd (hn.symm.trans h) (by decide)
    refine iff_of_true ?_ htidy
    cases a with
    | startup fates => exact ⟨(startup_started _ _ hn).symm ▸ ho, fun _ h => by cases h⟩
    | shutdown fates => exact shutdown_owned fates hf ho hn
  | false =>
    cases a with
    | startup fates =>
      exact ⟨fun h => (startup_owned hf ho hn).1 h.1, fun h => ⟨(startup_owned hf ho hn).2 h, fun _ h => by cases h⟩⟩
    | shutdown fates =>
      have hidle := shutdown_idle fates hn
      constructor
      · intro h _
        have hempty := h.2 fates rfl (by rw [call, hidle]; rfl)
        rw [call, hidle] at hempty
        exact hempty
      · intro h
        unfold NoLeak call
        rw [hidle]
        exact ⟨ho, fun _ _ _ => h hn⟩

/-- In every run from a new container, what is open is what the fields lead to, and nothing is open after a shutdown
that returned, exactly when every call of the run is tidy. -/
theorem no_leak_iff_tidy (settings : Settings) (calls : List Call) :
    (lifecycleMachine settings).Along (NoLeak settings) init calls ↔
      (lifecycleMachine settings).Along (Tidy settings) init calls := by
  have hinit : init.Fit settings ∧ Each Held.Owned init := ⟨init_fit, init_owned⟩
  have hstep : ∀ c a c', c.Fit settings ∧ Each Held.Owned c → NoLeak settings c a →
      (lifecycleMachine settings).step c a = some c' → c'.Fit settings ∧ Each Held.Owned c' := by
    rintro c a c' ⟨hf, -⟩ hn h
    cases h
    exact ⟨call_fit hf, hn.1⟩
  constructor
  · intro h
    exact h.of_invariant hstep (fun c a hc hn => (noLeak_iff hc.1 hc.2).1 hn) hinit
  · intro h
    refine h.of_invariant (fun c a c' hc ht => hstep c a c' hc ((noLeak_iff hc.1 hc.2).2 ht))
      (fun c a hc ht => ?_) hinit
    exact (noLeak_iff hc.1 hc.2).2 ht

/-- `lifespan`: the application serves between a startup and a shutdown, and `finally` is reached whatever it raises.
-/
def lifespan (settings : Settings) (up : StartupFates) (serving : Option PyException) (down : ShutdownFates) :
    Lifecycle Unit := do
  startup settings up
  shutdown down
  match serving with
  | none => return
  | some exc => throw (.library exc)

/-- A process that starts and stops without an error leaves nothing open. -/
theorem lifespan_releases {up : StartupFates} {serving : Option PyException} {down : ShutdownFates}
    (h : returned ((lifespan settings up serving down).run init) = true) :
    Each (fun h => h.opened = ∅) (reached ((lifespan settings up serving down).run init)) := by
  have hserving : ∀ c, reached ((match serving with
      | none => return
      | some exc => throw (.library exc) : Lifecycle Unit).run c) = c := by
    intro c
    cases serving <;> rfl
  unfold lifespan at h ⊢
  rw [returned_bind, Bool.and_eq_true_iff, returned_bind, Bool.and_eq_true_iff] at h
  obtain ⟨hup, hdown, -⟩ := h
  rw [reached_bind, if_pos hup, reached_bind, if_pos hdown, hserving]
  have hstarted := startup_returned hup
  obtain ⟨-, -, -, hpasses⟩ := startup_spec settings up (c := init) rfl Held.empty_sound Held.empty_sound
  obtain ⟨hp, hj, hr⟩ := hpasses hstarted
  have htidy : Tidy settings init (.startup up) := by
    refine fun _ => ⟨fun ha => ?_, fun _ => rfl, fun ha => ?_⟩
    · rw [if_pos (poolPasses_wanted hp (Bool.and_eq_true_iff.1 ha).1).2]
      rfl
    · have hw := (Bool.and_eq_true_iff.1 (Bool.and_eq_true_iff.1 ha).2).1
      rw [if_pos (redisPasses_wanted hr hw).2]
      rfl
  have hleak := (noLeak_iff init_fit init_owned).2 htidy
  exact (shutdown_owned down (startup_fit init_fit rfl) hleak.1 hstarted).2 down rfl hdown

/-- Settings that ask for the pool and for Casbin. -/
def poolAndCasbin : Settings where
  startupConnectDatabase := true
  startupPreloadJwks := false
  startupConnectRedis := false
  startupLoadCasbin := true
  startupCreateCelery := false
  postgresDatabaseUrl := some "postgresql://localhost/app"
  redisUrl := none
  supabaseProjectUrl := none
  supabaseAnonKey := none
  oauthRedirectUri := none
  supabaseJwksUrl := none

/-- The pool connects and the policy does not load; the shutdown after it returns with the pool open. -/
theorem failed_startup_leaks :
    ¬ (lifecycleMachine poolAndCasbin).Along (NoLeak poolAndCasbin) init
      [.startup ⟨none, false, none, none, false, some (.osError "FileNotFoundError")⟩,
        .shutdown ⟨none, none, none⟩] := by
  intro h
  have hempty : ({0} : Finset Nat) = ∅ := ((h.2 _ rfl).1.2 _ rfl rfl).1
  exact absurd hempty (by decide)

end Container

end CleanBackend
