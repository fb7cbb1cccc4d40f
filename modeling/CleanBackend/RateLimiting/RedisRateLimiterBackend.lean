import CleanBackend.Lib.Redis
import CleanBackend.RateLimiting.FakeRateLimiterBackend

/-!
# The Redis backend

`RedisRateLimiterBackend.check` runs one Lua script, atomically.  What a check leaves in its key is a function of what
the key held (`RedisEntry.next`).  From stores related key by key (`Related`), the script and the in-memory backend
give the same counts and stay related, as long as the related counts are positive (`redis_refines_fake`); the script
takes a counter at zero for a first hit, and moves its expiry.
-/

namespace CleanBackend

/-- The script: `INCR`, `EXPIRE` on the first hit, and the repair of a key without an expiry. -/
def fixedWindowLua (s : RedisStore String) (now : ℚ) (key : String) (window : Int) :
    (Int × Int) × RedisStore String :=
  let (count, s) := s.incr now key
  let s := if count = 1 then s.expire now key window else s
  let ttl := s.ttl now key
  if ttl < 0 then ((count, window), s.expire now key window) else ((count, ttl), s)

def RedisRateLimiterBackend.check (s : RedisStore String) (now : ℚ) (key : String) (limit windowSeconds : Int) :
    BackendResult × RedisStore String :=
  let ((count, ttl), s) := fixedWindowLua s now key windowSeconds
  ({ count := count, remaining := max 0 (limit - count), resetAfterSeconds := max 1 ttl }, s)

def redisRateLimiterBackend : RateLimiterBackend (RedisStore String) where
  check s now key limit windowSeconds :=
    (.ok (RedisRateLimiterBackend.check s now key limit windowSeconds).1,
      (RedisRateLimiterBackend.check s now key limit windowSeconds).2)

/-- A `RateLimiter` over Redis. -/
def redisRateLimiter (defaultFailOpen : Bool) : RateLimiter (RedisStore String) :=
  { backend := redisRateLimiterBackend, defaultFailOpen }

/-! ### What a check leaves -/

/-- The end of the window a check counts in. -/
def RedisEntry.nextExpiry (windowSeconds : Int) (now : ℚ) (old : Option RedisEntry) : ℚ :=
  match old with
  | none => now + windowSeconds
  | some entry => if entry.count = 0 then now + windowSeconds else entry.expiresAt.getD (now + windowSeconds)

/-- The count a check reaches. -/
def RedisEntry.nextCount (old : Option RedisEntry) : Int := (old.getD ⟨0, none⟩).count + 1

/-- The entry a check leaves in its key. -/
def RedisEntry.next (windowSeconds : Int) (now : ℚ) (old : Option RedisEntry) : RedisEntry :=
  ⟨nextCount old, some (nextExpiry windowSeconds now old)⟩

private theorem nextExpiry_first {windowSeconds : Int} {now : ℚ} {old : Option RedisEntry}
    (h : RedisEntry.nextCount old = 1) : RedisEntry.nextExpiry windowSeconds now old = now + windowSeconds := by
  unfold RedisEntry.nextExpiry
  cases old with
  | none => rfl
  | some entry =>
    have hc : entry.count = 0 := by
      change entry.count + 1 = 1 at h
      omega
    simp [hc]

private theorem nextExpiry_later {windowSeconds : Int} {now : ℚ} {old : Option RedisEntry}
    (h : RedisEntry.nextCount old ≠ 1) :
    RedisEntry.nextExpiry windowSeconds now old = (old.getD ⟨0, none⟩).expiresAt.getD (now + windowSeconds) := by
  unfold RedisEntry.nextExpiry
  cases old with
  | none => rfl
  | some entry =>
    have hc : entry.count ≠ 0 := by
      change entry.count + 1 ≠ 1 at h
      omega
    simp [hc]

section Script

variable (s : RedisStore String) (now : ℚ) (key : String) {windowSeconds : Int}

private theorem lt_add_window (hW : 1 ≤ windowSeconds) : now < now + windowSeconds := by
  have hcast : (1 : ℚ) ≤ windowSeconds := by exact_mod_cast hW
  linarith

/-- A live entry has not expired. -/
private theorem alive_of_lookup : ((s.lookup now key).getD ⟨0, none⟩).alive now := by
  cases hold : s.lookup now key with
  | none => rfl
  | some entry => exact ((RedisStore.lookup_some s).1 hold).2

/-- The window a check counts in is not over. -/
private theorem nextExpiry_gt (hW : 1 ≤ windowSeconds) :
    now < RedisEntry.nextExpiry windowSeconds now (s.lookup now key) := by
  by_cases hn : RedisEntry.nextCount (s.lookup now key) = 1
  · rw [nextExpiry_first hn]
    exact lt_add_window now hW
  · rw [nextExpiry_later hn]
    have halive := alive_of_lookup s now key
    unfold RedisEntry.alive at halive
    cases he : ((s.lookup now key).getD ⟨0, none⟩).expiresAt with
    | none => exact lt_add_window now hW
    | some e => simpa [he] using halive

/-- The counter is in the store when the script goes on. -/
private theorem lookup_incr :
    (s.incr now key).2.lookup now key =
      some ⟨RedisEntry.nextCount (s.lookup now key), ((s.lookup now key).getD ⟨0, none⟩).expiresAt⟩ := by
  unfold RedisStore.incr
  rw [RedisStore.lookup_put, if_pos rfl, Option.filter_eq_some_iff]
  exact ⟨rfl, alive_of_lookup s now key⟩

/-- Setting the key once more after the `INCR` leaves the other keys as they were. -/
private theorem get_put_incr (entry : RedisEntry) (key' : String) :
    ((s.incr now key).2.put key entry).keys.get key' = if key = key' then some entry else s.keys.get key' := by
  unfold RedisStore.incr
  rw [RedisStore.get_put, RedisStore.get_put]
  split <;> rfl

/-- The script counts in `RedisEntry.next`, and replies its remaining time. -/
theorem fixedWindowLua_spec (hW : 1 ≤ windowSeconds) :
    (fixedWindowLua s now key windowSeconds).1 =
        (RedisEntry.nextCount (s.lookup now key),
          ⌊RedisEntry.nextExpiry windowSeconds now (s.lookup now key) - now + 1 / 2⌋) ∧
      ∀ key', (fixedWindowLua s now key windowSeconds).2.keys.get key' =
        if key = key' then some (RedisEntry.next windowSeconds now (s.lookup now key)) else s.keys.get key' := by
  set old := s.lookup now key with hold
  set s₁ := (s.incr now key).2 with hs₁
  have hscript : fixedWindowLua s now key windowSeconds =
      let s₂ := if RedisEntry.nextCount old = 1 then s₁.expire now key windowSeconds else s₁
      if s₂.ttl now key < 0 then ((RedisEntry.nextCount old, windowSeconds), s₂.expire now key windowSeconds)
      else ((RedisEntry.nextCount old, s₂.ttl now key), s₂) := rfl
  have hincr : s₁.lookup now key = some ⟨RedisEntry.nextCount old, (old.getD ⟨0, none⟩).expiresAt⟩ :=
    lookup_incr s now key
  have hround : ⌊now + (windowSeconds : ℚ) - now + 1 / 2⌋ = windowSeconds :=
      RedisStore.floor_add_half windowSeconds now
  by_cases hn : RedisEntry.nextCount old = 1
  · -- the first hit sets the expiry
    have hexp := RedisStore.expire_of_lookup s₁ hincr windowSeconds
    have hlook : (s₁.expire now key windowSeconds).lookup now key =
        some ⟨RedisEntry.nextCount old, some (now + windowSeconds)⟩ := by
      rw [hexp, RedisStore.lookup_put, if_pos rfl, Option.filter_eq_some_iff]
      exact ⟨rfl, by simpa [RedisEntry.alive] using Int.lt_of_lt_of_le Int.zero_lt_one hW⟩
    have httl := RedisStore.ttl_of_lookup _ hlook
    have hnonneg : ¬ (s₁.expire now key windowSeconds).ttl now key < 0 :=
      not_lt.2 (RedisStore.ttl_nonneg _ hlook)
    rw [hscript]
    simp only [if_pos hn, if_neg hnonneg]
    refine ⟨by rw [httl, nextExpiry_first hn], ?_⟩
    intro key'
    rw [hexp, get_put_incr, RedisEntry.next, nextExpiry_first hn]
  · cases he : (old.getD ⟨0, none⟩).expiresAt with
    | none =>
      -- the repair
      rw [he] at hincr
      have httl : s₁.ttl now key = -1 := by
        unfold RedisStore.ttl
        rw [hincr]
      have hexp := RedisStore.expire_of_lookup s₁ hincr windowSeconds
      have hnext : RedisEntry.nextExpiry windowSeconds now old = now + windowSeconds := by
        rw [nextExpiry_later hn, he, Option.getD_none]
      rw [hscript]
      simp only [if_neg hn, httl, if_pos (show (-1 : Int) < 0 by decide)]
      refine ⟨by rw [hnext, hround], ?_⟩
      intro key'
      rw [hexp, get_put_incr, RedisEntry.next, hnext]
    | some e =>
      rw [he] at hincr
      have hnext : RedisEntry.nextExpiry windowSeconds now old = e := by
        rw [nextExpiry_later hn, he, Option.getD_some]
      have hnonneg : ¬ s₁.ttl now key < 0 := not_lt.2 (RedisStore.ttl_nonneg _ hincr)
      rw [hscript]
      simp only [if_neg hn, if_neg hnonneg]
      refine ⟨by rw [RedisStore.ttl_of_lookup _ hincr, hnext], ?_⟩
      intro key'
      rw [RedisEntry.next, hnext, hs₁]
      have hput : (s.incr now key).2 = s.put key ⟨RedisEntry.nextCount old, some e⟩ := by
        rw [← he]
        rfl
      rw [hput, RedisStore.get_put]

/-- What a check leaves in the store, at the time of the check. -/
private theorem redis_check_lookup (limit : Int) (hW : 1 ≤ windowSeconds) (key' : String) :
    (RedisRateLimiterBackend.check s now key limit windowSeconds).2.lookup now key' =
      if key = key' then some (RedisEntry.next windowSeconds now (s.lookup now key)) else s.lookup now key' := by
  have hget := (fixedWindowLua_spec s now key hW).2 key'
  change ((fixedWindowLua s now key windowSeconds).2.keys.get key').filter (·.alive now) = _
  rw [hget]
  by_cases hk : key = key'
  · rw [if_pos hk, if_pos hk, Option.filter_eq_some_iff]
    exact ⟨rfl, by simpa [RedisEntry.alive, RedisEntry.next] using nextExpiry_gt s now key hW⟩
  · rw [if_neg hk, if_neg hk]
    rfl

/-- What a check answers. -/
theorem redis_check_result (limit : Int) (hW : 1 ≤ windowSeconds) :
    (RedisRateLimiterBackend.check s now key limit windowSeconds).1 =
      { count := RedisEntry.nextCount (s.lookup now key)
        remaining := max 0 (limit - RedisEntry.nextCount (s.lookup now key))
        resetAfterSeconds :=
          max 1 ⌊RedisEntry.nextExpiry windowSeconds now (s.lookup now key) - now + 1 / 2⌋ } := by
  have hres := (fixedWindowLua_spec s now key hW).1
  unfold RedisRateLimiterBackend.check
  rw [show fixedWindowLua s now key windowSeconds =
    ((fixedWindowLua s now key windowSeconds).1, (fixedWindowLua s now key windowSeconds).2) from rfl, hres]

end Script

/-! ### The two backends agree -/

/-- The Redis entry of a window. -/
def RedisEntry.ofWindow (w : Window ℚ) : RedisEntry := ⟨w.count, some w.expiresAt⟩

/-- The window of a key, unless it has lapsed. -/
def FakeRateLimiterBackend.live (b : FakeRateLimiterBackend) (now : ℚ) (key : String) : Option (Window ℚ) :=
  (b.windows.get key).filter fun w => decide (now < w.expiresAt)

/-- A key of Redis holds the open window of the key; a key that is gone has none. -/
def Related (now : ℚ) (redis : RedisStore String) (fake : FakeRateLimiterBackend) : Prop :=
  ∀ key, redis.lookup now key = (fake.live now key).map RedisEntry.ofWindow

/-- Every counter that exists at `now` has counted a hit. -/
def Counting (now : ℚ) (redis : RedisStore String) : Prop :=
  ∀ key entry, redis.lookup now key = some entry → 1 ≤ entry.count

/-- The count and the remaining calls of an answer. -/
def BackendResult.tally (r : BackendResult) : Int × Int := (r.count, r.remaining)

section Agree

variable {redis : RedisStore String} {fake : FakeRateLimiterBackend} {now now' : ℚ}

theorem Related.later (h : Related now redis fake) (hle : now ≤ now') : Related now' redis fake := by
  intro key
  rw [RedisStore.lookup_later redis hle, h key]
  unfold FakeRateLimiterBackend.live
  cases fake.windows.get key with
  | none => rfl
  | some w =>
    by_cases hw' : now' < w.expiresAt
    · have hw : now < w.expiresAt := hle.trans_lt hw'
      simp [Option.filter, hw, hw', RedisEntry.ofWindow, RedisEntry.alive]
    · by_cases hw : now < w.expiresAt <;> simp [Option.filter, hw, hw', RedisEntry.ofWindow, RedisEntry.alive]

theorem Counting.later (h : Counting now redis) (hle : now ≤ now') : Counting now' redis := by
  intro key entry he
  rw [RedisStore.lookup_later redis hle, Option.filter_eq_some_iff] at he
  exact h key entry he.1

/-- On related windows that have counted, the script makes the hit of the in-memory counter. -/
private theorem next_eq_hit (h : Related now redis fake) (hc : Counting now redis) (key : String)
    (windowSeconds : Int) :
    RedisEntry.next windowSeconds now (redis.lookup now key) =
      RedisEntry.ofWindow (Window.hit (windowSeconds : ℚ) (fake.windows.get key) now) := by
  have hkey := h key
  have hpos := hc key
  unfold FakeRateLimiterBackend.live at hkey
  cases hw : fake.windows.get key with
  | none =>
    have hnone : redis.lookup now key = none := by simpa [hw] using hkey
    rw [hnone]
    rfl
  | some w =>
    by_cases hlive : now < w.expiresAt
    · have hsome : redis.lookup now key = some (RedisEntry.ofWindow w) := by
        simpa [hw, Option.filter, hlive] using hkey
      have hcount : w.count ≠ 0 := by
        have hle : 1 ≤ w.count := hpos _ hsome
        omega
      rw [hsome]
      simp [RedisEntry.next, RedisEntry.nextCount, RedisEntry.nextExpiry, RedisEntry.ofWindow, Window.hit, hcount,
        not_le.2 hlive]
    · have hnone : redis.lookup now key = none := by simpa [hw, Option.filter, hlive] using hkey
      rw [hnone]
      simp [RedisEntry.next, RedisEntry.nextCount, RedisEntry.nextExpiry, RedisEntry.ofWindow, Window.hit,
        not_lt.1 hlive]

/-- One check of both backends. -/
theorem Related.check (h : Related now redis fake) (hc : Counting now redis) (key : String) (limit : Int)
    {windowSeconds : Int} (hW : 1 ≤ windowSeconds) :
    (RedisRateLimiterBackend.check redis now key limit windowSeconds).1.tally =
        (fake.check now key limit windowSeconds).1.tally ∧
      Related now (RedisRateLimiterBackend.check redis now key limit windowSeconds).2
        (fake.check now key limit windowSeconds).2 ∧
      Counting now (RedisRateLimiterBackend.check redis now key limit windowSeconds).2 := by
  have hnext := next_eq_hit h hc key windowSeconds
  have hgt := nextExpiry_gt redis now key hW
  have hcount : RedisEntry.nextCount (redis.lookup now key) =
      (Window.hit (windowSeconds : ℚ) (fake.windows.get key) now).count := congrArg RedisEntry.count hnext
  have hexp : RedisEntry.nextExpiry windowSeconds now (redis.lookup now key) =
      (Window.hit (windowSeconds : ℚ) (fake.windows.get key) now).expiresAt :=
    Option.some.inj (congrArg RedisEntry.expiresAt hnext)
  rw [redis_check_result redis now key limit hW, FakeRateLimiterBackend.check_eq]
  refine ⟨?_, ?_, ?_⟩
  · simp [BackendResult.tally, Window.result, hcount]
  · intro key'
    rw [redis_check_lookup redis now key limit hW key']
    unfold FakeRateLimiterBackend.live
    rw [PyDict.get_set]
    -- the checked key has the same window in both, and the other keys are not touched
    by_cases hk : key = key'
    · rw [if_pos hk, if_pos hk, hnext]
      rw [hexp] at hgt
      simp [Option.filter, hgt]
    · rw [if_neg hk, if_neg hk]
      exact h key'
  · intro key' entry he
    rw [redis_check_lookup redis now key limit hW key'] at he
    by_cases hk : key = key'
    · rw [if_pos hk] at he
      cases he
      change 1 ≤ RedisEntry.nextCount (redis.lookup now key)
      unfold RedisEntry.nextCount
      cases hold : redis.lookup now key with
      | none => decide
      | some entry =>
        have hle : 1 ≤ entry.count := hc key entry hold
        rw [Option.getD_some]
        omega
    · rw [if_neg hk] at he
      exact hc key' entry he

/-- A sequence of checks on both backends. -/
private theorem Related.checkAll (h : Related now redis fake) (hc : Counting now redis) {calls : List BackendCall}
    (hnow : ∀ c ∈ calls, now ≤ c.now) (hclock : calls.Pairwise (·.now ≤ ·.now))
    (hW : ∀ c ∈ calls, 1 ≤ c.windowSeconds) :
    (redisRateLimiterBackend.checkAll redis calls).map (Except.map BackendResult.tally) =
        (fakeRateLimiterBackend.checkAll fake calls).map (Except.map BackendResult.tally) ∧
      ∀ later, now ≤ later → (∀ c ∈ calls, c.now ≤ later) →
        Related later (redisRateLimiterBackend.afterAll redis calls)
          (fakeRateLimiterBackend.afterAll fake calls) := by
  induction calls generalizing redis fake now with
  | nil => exact ⟨rfl, fun later hle _ => h.later hle⟩
  | cons c calls ih =>
    rw [List.pairwise_cons] at hclock
    have hle : now ≤ c.now := hnow c List.mem_cons_self
    obtain ⟨htally, hrel, hcnt⟩ := (h.later hle).check (hc.later hle) c.key c.limit (hW c List.mem_cons_self)
    obtain ⟨htallies, hlater⟩ := ih hrel hcnt hclock.1 hclock.2 (fun c' hc' => hW c' (List.mem_cons_of_mem c hc'))
    refine ⟨?_, ?_⟩
    · rw [RateLimiterBackend.checkAll, RateLimiterBackend.checkAll, List.map_cons, List.map_cons]
      refine congrArg₂ List.cons ?_ htallies
      exact congrArg Except.ok htally
    · intro later _ hend
      exact hlater later (hend c List.mem_cons_self) (fun c' hc' => hend c' (List.mem_cons_of_mem c hc'))

end Agree

/-- From related stores whose counters have all counted a hit, any checks at non-decreasing times give the same counts
and remaining calls, and leave the stores related.  On any store, one check of a counter without an expiry gives it
the window of a check at that time; a counter that has no expiry after a check is another one and had none before; and
no check moves the expiry of a counter that has counted a hit. -/
theorem redis_refines_fake :
    (∀ (redis : RedisStore String) (fake : FakeRateLimiterBackend) (now : ℚ) (calls : List BackendCall),
      Related now redis fake → Counting now redis → (∀ c ∈ calls, now ≤ c.now) → calls.Pairwise (·.now ≤ ·.now) →
      (∀ c ∈ calls, 1 ≤ c.windowSeconds) →
      (redisRateLimiterBackend.checkAll redis calls).map (Except.map BackendResult.tally) =
          (fakeRateLimiterBackend.checkAll fake calls).map (Except.map BackendResult.tally) ∧
        ∀ later, now ≤ later → (∀ c ∈ calls, c.now ≤ later) →
          Related later (redisRateLimiterBackend.afterAll redis calls) (fakeRateLimiterBackend.afterAll fake calls)) ∧
    ∀ (redis : RedisStore String) (now : ℚ) (key : String) (limit windowSeconds : Int), 1 ≤ windowSeconds →
      let after := (RedisRateLimiterBackend.check redis now key limit windowSeconds).2
      (∀ count, redis.lookup now key = some ⟨count, none⟩ →
        after.lookup now key = some (RedisEntry.ofWindow ⟨now + windowSeconds, count + 1⟩)) ∧
      (∀ key' count, after.lookup now key' = some ⟨count, none⟩ →
        key' ≠ key ∧ redis.lookup now key' = some ⟨count, none⟩) ∧
      (∀ key' count e, 1 ≤ count → redis.lookup now key' = some ⟨count, some e⟩ →
        ∃ count', after.lookup now key' = some ⟨count', some e⟩) := by
  refine ⟨fun redis fake now calls hrel hc hnow hclock hW => hrel.checkAll hc hnow hclock hW, ?_⟩
  intro redis now key limit windowSeconds hW after
  have hafter : ∀ key', after.lookup now key' =
      if key = key' then some (RedisEntry.next windowSeconds now (redis.lookup now key)) else redis.lookup now key' :=
    redis_check_lookup redis now key limit hW
  refine ⟨?_, ?_, ?_⟩
  · intro count hold
    rw [hafter, if_pos rfl, hold]
    simp [RedisEntry.next, RedisEntry.nextCount, RedisEntry.nextExpiry, RedisEntry.ofWindow]
  · intro key' count hnone
    rw [hafter] at hnone
    by_cases hk : key = key'
    · rw [if_pos hk] at hnone
      cases hnone
    · rw [if_neg hk] at hnone
      exact ⟨Ne.symm hk, hnone⟩
  · intro key' count e hcount hold
    rw [hafter]
    by_cases hk : key = key'
    · have hne : count ≠ 0 := by omega
      rw [if_pos hk, hk, hold]
      exact ⟨count + 1, by simp [RedisEntry.next, RedisEntry.nextCount, RedisEntry.nextExpiry, hne]⟩
    · rw [if_neg hk]
      exact ⟨count, hold⟩

/-- An open window of two hits, and the counter that is related to it. -/
def sampleRedis : RedisStore String := ⟨[("k", ⟨2, some 5⟩)]⟩

def sampleWindows : FakeRateLimiterBackend := ⟨[("k", ⟨5, 2⟩)]⟩

theorem redis_refines_fake_sample :
    (redisRateLimiterBackend.checkAll sampleRedis [⟨1, "k", 3, 60⟩, ⟨5, "k", 3, 60⟩]).map
        (Except.map BackendResult.tally) =
      (fakeRateLimiterBackend.checkAll sampleWindows [⟨1, "k", 3, 60⟩, ⟨5, "k", 3, 60⟩]).map
        (Except.map BackendResult.tally) ∧
    (RedisRateLimiterBackend.check ⟨[("k", ⟨7, none⟩)]⟩ 1 "k" 3 60).2.lookup 1 "k" = some ⟨8, some (1 + 60)⟩ := by
  have hrel : Related 0 sampleRedis sampleWindows := by
    intro key
    by_cases hk : key = "k"
    · subst hk
      decide
    · simp [sampleRedis, sampleWindows, RedisStore.lookup, FakeRateLimiterBackend.live, PyDict.get_cons, Ne.symm hk]
  have hcount : Counting 0 sampleRedis := by
    intro key entry he
    have hmem := PyDict.mem_of_get ((RedisStore.lookup_some _).1 he).1
    cases List.mem_singleton.1 hmem
    decide
  refine ⟨(redis_refines_fake.1 sampleRedis sampleWindows 0 _ hrel hcount (by decide) (by decide)
    (by decide)).1, ?_⟩
  have hrepair := (redis_refines_fake.2 ⟨[("k", ⟨7, none⟩)]⟩ 1 "k" 3 60 (by decide)).1 7 (by decide)
  exact_mod_cast hrepair

/-- A counter at zero is taken for a first hit: the script moves its expiry, and the counts diverge when the window of
the in-memory backend ends. -/
theorem redis_zero_count :
    Related 0 ⟨[("k", ⟨0, some 5⟩)]⟩ ⟨[("k", ⟨5, 0⟩)]⟩ ∧
    (RedisRateLimiterBackend.check ⟨[("k", ⟨0, some 5⟩)]⟩ 1 "k" 3 60).2.lookup 1 "k" = some ⟨1, some 61⟩ ∧
    (redisRateLimiterBackend.checkAll ⟨[("k", ⟨0, some 5⟩)]⟩ [⟨1, "k", 3, 60⟩, ⟨10, "k", 3, 60⟩]).map
        (Except.map BackendResult.tally) = [.ok (1, 2), .ok (2, 1)] ∧
    (fakeRateLimiterBackend.checkAll ⟨[("k", ⟨5, 0⟩)]⟩ [⟨1, "k", 3, 60⟩, ⟨10, "k", 3, 60⟩]).map
        (Except.map BackendResult.tally) = [.ok (1, 2), .ok (1, 2)] := by
  refine ⟨?_, by decide +kernel, by decide +kernel, by decide +kernel⟩
  intro key
  by_cases hk : key = "k"
  · subst hk
    decide
  · simp [RedisStore.lookup, FakeRateLimiterBackend.live, PyDict.get_cons, Ne.symm hk]

end CleanBackend
