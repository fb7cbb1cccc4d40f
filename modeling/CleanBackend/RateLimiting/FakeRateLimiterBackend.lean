import CleanBackend.Lib.FixedWindow
import CleanBackend.RateLimiting.RateLimiter

/-!
# The in-memory backend

`FakeRateLimiterBackend` keeps one window a key and replaces it when a check finds it lapsed, so that its counter is
the fixed-window counter of each key (`check_get`).  The guarantee over a whole run of `enforce`
(`fixed_window_guarantee`): the calls of a key fall into windows opened by traffic, the first `limit` calls of each
are admitted and the others raise, and calls of other keys play no part.
-/

namespace CleanBackend

structure FakeRateLimiterBackend where
  windows : PyDict String (Window ℚ) := []
deriving DecidableEq

/-- The answer a check gives on the window it leaves. -/
def Window.result (limit : Int) (now : ℚ) (window : Window ℚ) : BackendResult where
  count := window.count
  remaining := max 0 (limit - window.count)
  resetAfterSeconds := max 1 ⌈window.expiresAt - now⌉

namespace FakeRateLimiterBackend

def check (b : FakeRateLimiterBackend) (now : ℚ) (key : String) (limit windowSeconds : Int) :
    BackendResult × FakeRateLimiterBackend :=
  let window : Window ℚ :=
    match b.windows.get key with
    | none => { expiresAt := now + windowSeconds, count := 1 }
    | some window =>
      if now ≥ window.expiresAt then { expiresAt := now + windowSeconds, count := 1 }
      else { window with count := window.count + 1 }
  (window.result limit now, { windows := b.windows.set key window })

/-- The check is one hit on the key's window. -/
theorem check_eq (b : FakeRateLimiterBackend) (now : ℚ) (key : String) (limit windowSeconds : Int) :
    b.check now key limit windowSeconds =
      ((Window.hit (windowSeconds : ℚ) (b.windows.get key) now).result limit now,
        { windows := b.windows.set key (Window.hit (windowSeconds : ℚ) (b.windows.get key) now) }) := by
  unfold check Window.hit
  cases b.windows.get key <;> rfl

end FakeRateLimiterBackend

def fakeRateLimiterBackend : RateLimiterBackend FakeRateLimiterBackend where
  check b now key limit windowSeconds :=
    (.ok (b.check now key limit windowSeconds).1, (b.check now key limit windowSeconds).2)

/-- A `RateLimiter` over the in-memory backend. -/
def fakeRateLimiter (defaultFailOpen : Bool) : RateLimiter FakeRateLimiterBackend :=
  { backend := fakeRateLimiterBackend, defaultFailOpen }

/-! ### One key in a run -/

section Run

variable {failOpen : Bool} {b : FakeRateLimiterBackend} {c : RateLimitCall} {calls : List RateLimitCall}
  {key : String}

theorem fake_enforceCall (failOpen : Bool) (b : FakeRateLimiterBackend) (c : RateLimitCall) :
    (fakeRateLimiter failOpen).enforceCall b c =
      (c.rule.judge (b.check c.now c.key c.rule.limit c.rule.windowSeconds).1,
        (b.check c.now c.key c.rule.limit c.rule.windowSeconds).2) :=
  RateLimiter.enforce_of_ok rfl

/-- A call touches the window of its own key. -/
theorem fake_get_of_call (failOpen : Bool) (b : FakeRateLimiterBackend) (c : RateLimitCall) (key : String) :
    ((fakeRateLimiter failOpen).enforceCall b c).2.windows.get key =
      if c.key = key then some (Window.hit (c.rule.windowSeconds : ℚ) (b.windows.get key) c.now)
      else b.windows.get key := by
  rw [fake_enforceCall, FakeRateLimiterBackend.check_eq, PyDict.get_set]
  by_cases hk : c.key = key
  · subst hk
    simp
  · simp [hk]

/-- The results of one key: the time of each call and its outcome. -/
def resultsOf (failOpen : Bool) (b : FakeRateLimiterBackend) (calls : List RateLimitCall) (key : String) :
    List (ℚ × RateLimitOutcome) :=
  (((fakeRateLimiter failOpen).enforceAll b calls).filter fun r => decide (r.1.key = key)).map
    fun r => (r.1.now, r.2)

/-- The times at which a key is called. -/
def timesOf (calls : List RateLimitCall) (key : String) : List ℚ :=
  (calls.filter fun c => decide (c.key = key)).map RateLimitCall.now

/-- The results of a key are those of its fixed-window counter. -/
private theorem resultsOf_eq_trace (failOpen : Bool) (b : FakeRateLimiterBackend) {rule : RateLimitRule}
    (hrule : ∀ c ∈ calls, c.key = key → c.rule = rule) :
    resultsOf failOpen b calls key =
      (FixedWindow.trace (rule.windowSeconds : ℚ) (b.windows.get key) (timesOf calls key)).map
        fun p => (p.1, rule.judge (p.2.result rule.limit p.1)) := by
  induction calls generalizing b with
  | nil => rfl
  | cons c calls ih =>
    have hrest := ih ((fakeRateLimiter failOpen).enforceCall b c).2
      (fun c' hc' => hrule c' (List.mem_cons_of_mem c hc'))
    rw [fake_get_of_call] at hrest
    unfold resultsOf timesOf at *
    rw [RateLimiter.enforceAll]
    by_cases hk : c.key = key
    · have hr : c.rule = rule := hrule c List.mem_cons_self hk
      rw [if_pos hk, hr] at hrest
      rw [List.filter_cons_of_pos (by simpa using hk), List.filter_cons_of_pos (by simpa using hk), List.map_cons,
        hrest, List.map_cons, FixedWindow.trace, List.map_cons, fake_enforceCall, FakeRateLimiterBackend.check_eq, hk,
        hr]
    · rw [if_neg hk] at hrest
      rw [List.filter_cons_of_neg (by simpa using hk), List.filter_cons_of_neg (by simpa using hk), hrest]

private theorem timesOf_filter (calls : List RateLimitCall) (key : String) :
    timesOf (calls.filter fun c => decide (c.key = key)) key = timesOf calls key := by
  simp [timesOf, List.filter_filter]

/-- Calls of other keys leave a key's results as they are. -/
private theorem resultsOf_filter (failOpen : Bool) (b : FakeRateLimiterBackend) {rule : RateLimitRule}
    (hrule : ∀ c ∈ calls, c.key = key → c.rule = rule) :
    resultsOf failOpen b (calls.filter fun c => decide (c.key = key)) key = resultsOf failOpen b calls key := by
  rw [resultsOf_eq_trace failOpen b hrule,
    resultsOf_eq_trace failOpen b (fun c hc => hrule c (List.mem_filter.1 hc).1), timesOf_filter]

theorem timesOf_sorted (h : calls.Pairwise (·.now ≤ ·.now)) (key : String) : (timesOf calls key).Pairwise (· ≤ ·) :=
  List.pairwise_map.2 (h.sublist List.filter_sublist)

end Run

/-! ### Windows of results -/

/-- What the `i`-th call of a window, made at `now`, comes to. -/
def windowOutcome (rule : RateLimitRule) (expiresAt now : ℚ) (i : Nat) : RateLimitOutcome :=
  if (i : Int) ≤ rule.limit then
    .ok {
      allowed := true
      limit := rule.limit
      remaining := max 0 (rule.limit - i)
      resetAfterSeconds := max 1 ⌈expiresAt - now⌉ }
  else
    .error (.new none [("rule", rule.name)] (max 1 ⌈expiresAt - now⌉) rule.limit (max 0 (rule.limit - i)))

/-- The results of the calls of one window, numbered from one. -/
def windowResults (rule : RateLimitRule) : List ℚ → List (ℚ × RateLimitOutcome)
  | [] => []
  | s :: hits => ((s :: hits).zipIdx 1).map fun p => (p.1, windowOutcome rule (s + rule.windowSeconds) p.1 p.2)

/-- The times of the admitted calls. -/
def admitted (results : List (ℚ × RateLimitOutcome)) : List ℚ := (results.filter (·.2.isOk)).map Prod.fst

private theorem windowResults_eq (rule : RateLimitRule) (w : List ℚ) :
    windowResults rule w =
      (FixedWindow.numbered (rule.windowSeconds : ℚ) w).map fun p =>
        (p.1, rule.judge (p.2.result rule.limit p.1)) := by
  cases w with
  | nil => rfl
  | cons s hits =>
    rw [FixedWindow.numbered, List.map_map]
    rfl

/-- The calls admitted in a window are the first `limit`. -/
private theorem admitted_windowResults {rule : RateLimitRule} (hlimit : 0 ≤ rule.limit) (w : List ℚ) :
    admitted (windowResults rule w) = w.take rule.limit.toNat := by
  rw [windowResults_eq, admitted, List.filter_map, List.map_map, ← FixedWindow.numbered_filter]
  refine congrArg (List.map Prod.fst) (List.filter_congr ?_)
  intro p _
  have hn : ((rule.limit.toNat : Nat) : Int) = rule.limit := Int.toNat_of_nonneg hlimit
  by_cases hc : p.2.count ≤ rule.limit <;>
    simp [RateLimitRule.judge, Window.result, hn, hc, Except.isOk, Except.toBool]

private theorem admitted_flatMap (rule : RateLimitRule) (ws : List (List ℚ)) :
    admitted (ws.flatMap (windowResults rule)) = ws.flatMap fun w => admitted (windowResults rule w) := by
  simp [admitted, List.filter_flatMap, List.map_flatMap]

/-- Over a run of `enforce` on rules and identifiers with distinct keys, under a clock that does not go back: the
calls of a key are divided into windows, each opened by the first call at or after the end of the one before; the
`i`-th call of a window is admitted if and only if `i ≤ limit`; no window admits more than `limit` calls, and no
interval of the length of a window more than `2 * limit`; and the calls of other keys do not change the results. -/
theorem fixed_window_guarantee (failOpen : Bool) (calls : List RateLimitCall)
    (hrules : ∀ c ∈ calls, 0 ≤ c.rule.limit ∧ 1 ≤ c.rule.windowSeconds)
    (hkeys : ∀ c ∈ calls, ∀ c' ∈ calls, (c.rule, c.identifier) ≠ (c'.rule, c'.identifier) → c.key ≠ c'.key)
    (hclock : calls.Pairwise (·.now ≤ ·.now)) (call : RateLimitCall) (hcall : call ∈ calls) :
    ∃ ws : List (List ℚ),
      FixedWindow.Divides (call.rule.windowSeconds : ℚ) (timesOf calls call.key) ws ∧
      resultsOf failOpen {} calls call.key = ws.flatMap (windowResults call.rule) ∧
      (∀ w ∈ ws, ((admitted (windowResults call.rule w)).length : Int) ≤ call.rule.limit) ∧
      (∀ a : ℚ, (((admitted (resultsOf failOpen {} calls call.key)).countP
        fun t => decide (a ≤ t ∧ t < a + call.rule.windowSeconds) : Nat) : Int) ≤ 2 * call.rule.limit) ∧
      resultsOf failOpen {} (calls.filter fun c => decide (c.key = call.key)) call.key =
        resultsOf failOpen {} calls call.key := by
  obtain ⟨hlimit, hwindow⟩ := hrules call hcall
  have hW : (0 : ℚ) < call.rule.windowSeconds := by exact_mod_cast hwindow
  have hn : ((call.rule.limit.toNat : Nat) : Int) = call.rule.limit := Int.toNat_of_nonneg hlimit
  have hrule : ∀ c ∈ calls, c.key = call.key → c.rule = call.rule := by
    intro c hc hk
    by_contra hne
    exact hkeys c hc call hcall (fun he => hne (Prod.mk.inj he).1) hk
  have hdiv := FixedWindow.windows_divides hW (timesOf_sorted hclock call.key)
  have hres : resultsOf failOpen {} calls call.key =
      (FixedWindow.windows (call.rule.windowSeconds : ℚ) (timesOf calls call.key)).flatMap
        (windowResults call.rule) := by
    have htrace := resultsOf_eq_trace failOpen {} hrule
    rw [show ({} : FakeRateLimiterBackend).windows.get call.key = none from rfl, FixedWindow.trace_none,
      List.map_flatMap] at htrace
    rw [htrace, funext (windowResults_eq call.rule)]
  refine ⟨_, hdiv, hres, ?_, ?_, resultsOf_filter failOpen {} hrule⟩
  · intro w _
    have hlen : (admitted (windowResults call.rule w)).length ≤ call.rule.limit.toNat := by
      rw [admitted_windowResults hlimit]
      exact List.length_take_le _ w
    omega
  · intro a
    have hcount := FixedWindow.hitsWithin_le_two_mul hdiv call.rule.limit.toNat a
    rw [hres, admitted_flatMap]
    simp only [admitted_windowResults hlimit]
    unfold FixedWindow.hitsWithin at hcount
    omega

/-- Two keys of one rule: three calls of the first, the last a window later, and one of the second in between. -/
def sampleRateLimitCalls : List RateLimitCall :=
  let rule : RateLimitRule := ⟨"booking.create", 1, 60, .user, none⟩
  [⟨0, rule, "user-1"⟩, ⟨59 / 2, rule, "user-2"⟩, ⟨30, rule, "user-1"⟩, ⟨60, rule, "user-1"⟩]

theorem fixed_window_guarantee_sample :
    timesOf sampleRateLimitCalls "app:rl:booking.create:user:user-1" = [0, 30, 60] ∧
      ∃ ws, FixedWindow.Divides (60 : ℚ) (timesOf sampleRateLimitCalls "app:rl:booking.create:user:user-1") ws ∧
        resultsOf true {} sampleRateLimitCalls "app:rl:booking.create:user:user-1" =
          ws.flatMap (windowResults ⟨"booking.create", 1, 60, .user, none⟩) := by
  refine ⟨by decide, ?_⟩
  obtain ⟨ws, hdiv, hres, -⟩ := fixed_window_guarantee true sampleRateLimitCalls (by decide)
    (by decide) (by decide +kernel) ⟨0, ⟨"booking.create", 1, 60, .user, none⟩, "user-1"⟩ (by decide)
  have hkey : RateLimitCall.key ⟨0, ⟨"booking.create", 1, 60, .user, none⟩, "user-1"⟩ =
      "app:rl:booking.create:user:user-1" := by decide
  rw [hkey] at hdiv hres
  exact ⟨ws, hdiv, hres⟩

end CleanBackend
