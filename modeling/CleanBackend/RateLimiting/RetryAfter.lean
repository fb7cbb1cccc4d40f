import CleanBackend.RateLimiting.RedisRateLimiterBackend
import Mathlib.Tactic.NormNum

/-!
# Whether Retry-After is enough

A denial carries the seconds after which the key should be free again.  The in-memory backend rounds the remaining
time up, and its answer is always enough.  Redis replies it to the nearest second, so that a remainder with a fraction
below a half is understated: the answer is enough exactly when the remainder is at most a second, or whole, or its
fraction is at least a half (`retry_after_sufficient`).
-/

namespace CleanBackend

/-- When `enforce` denies `c`, a check of the same key that waits for `retry_after`, with none of the key in between,
is admitted. -/
def RetryAfterSuffices {σ : Type} (L : RateLimiter σ) (state : σ) (c : RateLimitCall) : Prop :=
  ∀ exc, (L.enforceCall state c).1 = .error exc →
    ∀ (between : List RateLimitCall) (next : RateLimitCall),
      (∀ b ∈ between, b.key ≠ c.key ∧ 1 ≤ b.rule.limit ∧ 1 ≤ b.rule.windowSeconds) →
      next.key = c.key → 1 ≤ next.rule.limit → 1 ≤ next.rule.windowSeconds →
      ((c :: between) ++ [next]).Pairwise (·.now ≤ ·.now) → c.now + exc.retryAfter ≤ next.now →
      (L.enforceCall (L.afterAll (L.enforceCall state c).2 between) next).1.isOk

private theorem judge_isOk (rule : RateLimitRule) (result : BackendResult) :
    (rule.judge result).isOk ↔ result.count ≤ rule.limit := by
  unfold RateLimitRule.judge
  split
  · rename_i hle
    exact iff_of_true rfl hle
  · rename_i hlt
    exact iff_of_false Bool.false_ne_true hlt

/-- The wait a denial asks for. -/
private theorem judge_error {rule : RateLimitRule} {result : BackendResult} {exc : RateLimitExceededError}
    (h : rule.judge result = .error exc) :
    rule.limit < result.count ∧ exc.retryAfter = max 1 result.resetAfterSeconds := by
  unfold RateLimitRule.judge at h
  split at h
  · cases h
  · cases h
    exact ⟨not_le.1 ‹_›, rfl⟩

private theorem judge_eq_error {rule : RateLimitRule} {result : BackendResult} (h : rule.limit < result.count) :
    ∃ exc, rule.judge result = .error exc := by
  unfold RateLimitRule.judge
  rw [if_neg (not_le.2 h)]
  exact ⟨_, rfl⟩

/-! ### The in-memory backend -/

private theorem fake_get_of_calls (failOpen : Bool) (b : FakeRateLimiterBackend) {calls : List RateLimitCall}
    {key : String} (h : ∀ c ∈ calls, c.key ≠ key) :
    ((fakeRateLimiter failOpen).afterAll b calls).windows.get key = b.windows.get key := by
  induction calls generalizing b with
  | nil => rfl
  | cons c calls ih =>
    have hc : c.key ≠ key := h c List.mem_cons_self
    have hrest := ih ((fakeRateLimiter failOpen).enforceCall b c).2 (fun c' hc' => h c' (List.mem_cons_of_mem c hc'))
    rw [fake_get_of_call, if_neg hc] at hrest
    exact hrest

/-- `math.ceil` never understates the remaining time. -/
private theorem fake_retry_after (failOpen : Bool) (b : FakeRateLimiterBackend) (c : RateLimitCall) :
    RetryAfterSuffices (fakeRateLimiter failOpen) b c := by
  intro exc hexc between next hbetween hkey hlimit _ _ hwait
  have hget := fake_get_of_calls failOpen ((fakeRateLimiter failOpen).enforceCall b c).2
    (fun b' hb' => (hbetween b' hb').1)
  rw [fake_get_of_call, if_pos rfl] at hget
  rw [fake_enforceCall, FakeRateLimiterBackend.check_eq] at hexc
  obtain ⟨-, hretry⟩ := judge_error hexc
  set w := Window.hit (c.rule.windowSeconds : ℚ) (b.windows.get c.key) c.now with hw
  have hover : w.expiresAt ≤ next.now := by
    have hceil : w.expiresAt - c.now ≤ (⌈w.expiresAt - c.now⌉ : ℚ) := Int.le_ceil _
    have hmax : ⌈w.expiresAt - c.now⌉ ≤ exc.retryAfter := by
      rw [hretry]
      exact (le_max_right 1 _).trans (le_max_right 1 _)
    have hmax' : (⌈w.expiresAt - c.now⌉ : ℚ) ≤ exc.retryAfter := by exact_mod_cast hmax
    linarith
  rw [fake_enforceCall, FakeRateLimiterBackend.check_eq, judge_isOk, hkey, hget]
  simpa [Window.result, Window.hit, hover] using hlimit

/-! ### Redis -/

/-- A remainder that Redis does not understate. -/
def RoundsUp (x : ℚ) : Prop := x ≤ 1 ∨ Int.fract x = 0 ∨ 1 / 2 ≤ Int.fract x

instance (x : ℚ) : Decidable (RoundsUp x) := inferInstanceAs (Decidable (_ ∨ _ ∨ _))

private theorem le_round_iff (x : ℚ) : x ≤ ((max 1 (max 1 ⌊x + 1 / 2⌋) : Int) : ℚ) ↔ RoundsUp x := by
  have hsplit : (⌊x⌋ : ℚ) + Int.fract x = x := Int.floor_add_fract x
  have hlt : Int.fract x < 1 := Int.fract_lt_one x
  have hnonneg : 0 ≤ Int.fract x := Int.fract_nonneg x
  have hround : x ≤ (⌊x + 1 / 2⌋ : ℚ) ↔ Int.fract x = 0 ∨ 1 / 2 ≤ Int.fract x := by
    by_cases hhalf : 1 / 2 ≤ Int.fract x
    · have hfloor : ⌊x + 1 / 2⌋ = ⌊x⌋ + 1 := by
        refine Int.floor_eq_iff.2 ⟨?_, ?_⟩ <;> push_cast <;> linarith
      rw [hfloor]
      push_cast
      constructor
      · exact fun _ => Or.inr hhalf
      · intro _
        linarith
    · have hfloor : ⌊x + 1 / 2⌋ = ⌊x⌋ := by
        refine Int.floor_eq_iff.2 ⟨?_, ?_⟩ <;> linarith [not_le.1 hhalf]
      rw [hfloor]
      constructor
      · intro hle
        left
        linarith
      · rintro (hzero | hge)
        · linarith
        · exact absurd hge hhalf
  rw [← max_assoc, max_self]
  push_cast
  rw [le_max_iff, hround]
  rfl

private theorem redis_enforceCall (failOpen : Bool) (s : RedisStore String) (c : RateLimitCall) :
    (redisRateLimiter failOpen).enforceCall s c =
      (c.rule.judge (RedisRateLimiterBackend.check s c.now c.key c.rule.limit c.rule.windowSeconds).1,
        (RedisRateLimiterBackend.check s c.now c.key c.rule.limit c.rule.windowSeconds).2) :=
  RateLimiter.enforce_of_ok rfl

/-- A call sets its own key. -/
private theorem redis_get_of_call (failOpen : Bool) (s : RedisStore String) {c : RateLimitCall}
    (hW : 1 ≤ c.rule.windowSeconds) (key : String) :
    ((redisRateLimiter failOpen).enforceCall s c).2.keys.get key =
      if c.key = key then some (RedisEntry.next c.rule.windowSeconds c.now (s.lookup c.now c.key))
      else s.keys.get key := by
  rw [redis_enforceCall]
  exact (fixedWindowLua_spec s c.now c.key hW).2 key

private theorem redis_get_of_calls (failOpen : Bool) (s : RedisStore String) {calls : List RateLimitCall}
    {key : String} (h : ∀ c ∈ calls, c.key ≠ key ∧ 1 ≤ c.rule.windowSeconds) :
    ((redisRateLimiter failOpen).afterAll s calls).keys.get key = s.keys.get key := by
  induction calls generalizing s with
  | nil => rfl
  | cons c calls ih =>
    obtain ⟨hne, hW⟩ := h c List.mem_cons_self
    have hrest := ih ((redisRateLimiter failOpen).enforceCall s c).2
      (fun c' hc' => h c' (List.mem_cons_of_mem c hc'))
    rw [redis_get_of_call failOpen s hW, if_neg hne] at hrest
    exact hrest

/-- The remaining time of a key that a check will find exhausted is not understated. -/
def RetryCondition (s : RedisStore String) (c : RateLimitCall) : Prop :=
  ∀ count e, s.lookup c.now c.key = some ⟨count, some e⟩ → c.rule.limit ≤ count → RoundsUp (e - c.now)

/-- The check of a key whose window is over, whatever it has counted. -/
private theorem redis_next_over (failOpen : Bool) {s : RedisStore String} {next : RateLimitCall} {count : Int} {e : ℚ}
    (h : s.keys.get next.key = some ⟨count, some e⟩) (hover : e ≤ next.now) (hlimit : 1 ≤ next.rule.limit)
    (hW : 1 ≤ next.rule.windowSeconds) : ((redisRateLimiter failOpen).enforceCall s next).1.isOk := by
  rw [redis_enforceCall, judge_isOk, redis_check_result s next.now next.key _ hW]
  unfold RedisStore.lookup
  rw [h]
  simpa [Option.filter, RedisEntry.alive, RedisEntry.nextCount, not_lt.2 hover] using hlimit

/-- The check of a key that holds an exhausted window. -/
private theorem redis_next_isOk (failOpen : Bool) {s : RedisStore String} {next : RateLimitCall} {count : Int} {e : ℚ}
    (h : s.keys.get next.key = some ⟨count, some e⟩) (hcount : next.rule.limit ≤ count) (hlimit : 1 ≤ next.rule.limit)
    (hW : 1 ≤ next.rule.windowSeconds) :
    ((redisRateLimiter failOpen).enforceCall s next).1.isOk ↔ e ≤ next.now := by
  by_cases hover : e ≤ next.now
  · exact iff_of_true (redis_next_over failOpen h hover hlimit hW) hover
  · rw [redis_enforceCall, judge_isOk, redis_check_result s next.now next.key _ hW]
    unfold RedisStore.lookup
    rw [h]
    have hdenied : ¬ count + 1 ≤ next.rule.limit := by omega
    simpa [Option.filter, RedisEntry.alive, RedisEntry.nextCount, not_le.1 hover, hover] using hdenied

/-- The answer of a denial is enough exactly when it covers the remaining time. -/
private theorem redis_suffices_iff (failOpen : Bool) (s : RedisStore String) {c : RateLimitCall}
    (hlimit : 1 ≤ c.rule.limit) (hW : 1 ≤ c.rule.windowSeconds) :
    RetryAfterSuffices (redisRateLimiter failOpen) s c ↔
      (c.rule.limit < RedisEntry.nextCount (s.lookup c.now c.key) →
        RoundsUp (RedisEntry.nextExpiry c.rule.windowSeconds c.now (s.lookup c.now c.key) - c.now)) := by
  have hget := redis_get_of_call failOpen s hW c.key
  rw [if_pos rfl] at hget
  have hresult := redis_check_result s c.now c.key c.rule.limit hW
  unfold RedisEntry.next at hget
  generalize RedisEntry.nextCount (s.lookup c.now c.key) = count at *
  generalize RedisEntry.nextExpiry c.rule.windowSeconds c.now (s.lookup c.now c.key) = e at *
  have hretry : ∀ exc, ((redisRateLimiter failOpen).enforceCall s c).1 = .error exc →
      c.rule.limit < count ∧ exc.retryAfter = max 1 (max 1 ⌊e - c.now + 1 / 2⌋) := by
    intro exc hexc
    rw [redis_enforceCall, hresult] at hexc
    exact judge_error hexc
  constructor
  · intro hsuff hdenied
    obtain ⟨exc, hexc⟩ : ∃ exc, ((redisRateLimiter failOpen).enforceCall s c).1 = .error exc := by
      rw [redis_enforceCall, hresult]
      exact judge_eq_error hdenied
    obtain ⟨-, hr⟩ := hretry exc hexc
    -- the same call again, as early as the denial allows
    have hlater : c.now ≤ c.now + exc.retryAfter := by
      have hpos : 1 ≤ exc.retryAfter := hr ▸ le_max_left 1 _
      have hpos' : (1 : ℚ) ≤ exc.retryAfter := by exact_mod_cast hpos
      linarith
    obtain ⟨next, hnext⟩ : ∃ next : RateLimitCall, next = { c with now := c.now + exc.retryAfter } := ⟨_, rfl⟩
    have hkey : next.key = c.key := by rw [hnext]; rfl
    have hrule : next.rule = c.rule := by rw [hnext]
    have hnow : next.now = c.now + exc.retryAfter := by rw [hnext]
    have hlimit' : 1 ≤ next.rule.limit := by rwa [hrule]
    have hW' : 1 ≤ next.rule.windowSeconds := by rwa [hrule]
    have hcount : next.rule.limit ≤ count := by rw [hrule]; exact hdenied.le
    have hok := hsuff exc hexc [] next (by simp) hkey hlimit' hW' (by simpa [hnow] using hlater) hnow.ge
    rw [← hkey] at hget
    have hover : e ≤ next.now := (redis_next_isOk failOpen hget hcount hlimit' hW').1 hok
    refine (le_round_iff _).1 ?_
    rw [← hr]
    rw [hnow] at hover
    linarith
  · intro hround exc hexc between next hbetween hkey hlimit' hW' _ hwait
    obtain ⟨hdenied, hr⟩ := hretry exc hexc
    have hle := (le_round_iff _).2 (hround hdenied)
    rw [← hr] at hle
    have hover : e ≤ next.now := by linarith
    have hsame := redis_get_of_calls failOpen ((redisRateLimiter failOpen).enforceCall s c).2
      (fun b hb => ⟨(hbetween b hb).1, (hbetween b hb).2.2⟩)
    rw [hget, ← hkey] at hsame
    exact redis_next_over failOpen hsame hover hlimit' hW'

private theorem redis_retry_after (failOpen : Bool) (s : RedisStore String) {c : RateLimitCall}
    (hlimit : 1 ≤ c.rule.limit) (hW : 1 ≤ c.rule.windowSeconds) :
    RetryAfterSuffices (redisRateLimiter failOpen) s c ↔ RetryCondition s c := by
  rw [redis_suffices_iff failOpen s hlimit hW]
  unfold RetryCondition
  cases hold : s.lookup c.now c.key with
  | none =>
    have hfirst : ¬ c.rule.limit < RedisEntry.nextCount none := not_lt.2 hlimit
    simp [hfirst]
  | some entry =>
    obtain ⟨count, expiresAt⟩ := entry
    have hcount : RedisEntry.nextCount (some ⟨count, expiresAt⟩) = count + 1 := rfl
    rw [hcount, Int.lt_add_one_iff]
    cases expiresAt with
    | none =>
      -- a repaired key: the window is whole
      have hwhole : RoundsUp (c.rule.windowSeconds : ℚ) := Or.inr (Or.inl (Int.fract_intCast _))
      simp [RedisEntry.nextExpiry, hwhole]
    | some e =>
      constructor
      · intro h count' e' heq hle
        cases heq
        have hne : count ≠ 0 := by omega
        simpa [RedisEntry.nextExpiry, hne] using h hle
      · intro h hle
        have hne : count ≠ 0 := by omega
        simpa [RedisEntry.nextExpiry, hne] using h count e rfl hle

/-- After any run of checks: the wait of the in-memory backend is enough, and that of Redis is enough exactly when the
remaining time of an exhausted key is at most a second, or whole, or has a fraction of at least a half. -/
theorem retry_after_sufficient (failOpen : Bool) :
    (∀ (b : FakeRateLimiterBackend) (before : List RateLimitCall) (c : RateLimitCall), 1 ≤ c.rule.limit →
      1 ≤ c.rule.windowSeconds →
      RetryAfterSuffices (fakeRateLimiter failOpen) ((fakeRateLimiter failOpen).afterAll b before) c) ∧
    ∀ (s : RedisStore String) (before : List RateLimitCall) (c : RateLimitCall), 1 ≤ c.rule.limit →
      1 ≤ c.rule.windowSeconds →
      (RetryAfterSuffices (redisRateLimiter failOpen) ((redisRateLimiter failOpen).afterAll s before) c ↔
        RetryCondition ((redisRateLimiter failOpen).afterAll s before) c) := by
  refine ⟨?_, ?_⟩
  · intro b before c _ _
    exact fake_retry_after failOpen _ c
  · intro s before c hlimit hW
    exact redis_retry_after failOpen _ hlimit hW

/-- A rule of one call a minute. -/
def sampleRetryRule : RateLimitRule := ⟨"auth.login", 1, 60, .ip, some false⟩

theorem retry_after_sufficient_sample :
    RetryAfterSuffices (fakeRateLimiter true)
        ((fakeRateLimiter true).afterAll {} [⟨0, sampleRetryRule, "203.0.113.9"⟩])
        ⟨248 / 5, sampleRetryRule, "203.0.113.9"⟩ ∧
      (RetryAfterSuffices (redisRateLimiter true)
          ((redisRateLimiter true).afterAll {} [⟨0, sampleRetryRule, "203.0.113.9"⟩])
          ⟨247 / 5, sampleRetryRule, "203.0.113.9"⟩ ↔
        RetryCondition ((redisRateLimiter true).afterAll {} [⟨0, sampleRetryRule, "203.0.113.9"⟩])
          ⟨247 / 5, sampleRetryRule, "203.0.113.9"⟩) :=
  ⟨(retry_after_sufficient true).1 _ _ _ (by decide) (by decide),
    (retry_after_sufficient true).2 _ _ _ (by decide) (by decide)⟩

/-- Denied with 10.4 seconds left, and told to wait for 10: the check after 10 seconds is denied again. -/
theorem retry_after_understated :
    ((redisRateLimiter true).enforceAll {}
      [⟨0, sampleRetryRule, "203.0.113.9"⟩, ⟨248 / 5, sampleRetryRule, "203.0.113.9"⟩,
        ⟨248 / 5 + 10, sampleRetryRule, "203.0.113.9"⟩]).map Prod.snd =
      [.ok ⟨true, 1, 0, 60⟩, .error (.new none [("rule", "auth.login")] 10 (some 1) 0),
        .error (.new none [("rule", "auth.login")] 1 (some 1) 0)] ∧
    ¬ RetryAfterSuffices (redisRateLimiter true)
      ((redisRateLimiter true).afterAll {} [⟨0, sampleRetryRule, "203.0.113.9"⟩])
      ⟨248 / 5, sampleRetryRule, "203.0.113.9"⟩ := by
  refine ⟨by decide +kernel, ?_⟩
  intro h
  have hok := h (.new none [("rule", "auth.login")] 10 (some 1) 0) (by decide +kernel) []
    ⟨248 / 5 + 10, sampleRetryRule, "203.0.113.9"⟩ (by simp) rfl (by decide) (by decide) (by decide +kernel)
    (by decide +kernel)
  exact absurd hok (by decide +kernel)

end CleanBackend
