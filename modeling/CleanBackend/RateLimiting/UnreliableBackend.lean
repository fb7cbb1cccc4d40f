import CleanBackend.Lib.LossyCounter
import CleanBackend.RateLimiting.RedisRateLimiterBackend

/-!
# The limiter when Redis fails

A check of Redis may be refused before the script runs, or have run while its answer is lost; `RateLimiter.check` then
takes the fail mode of the rule.  Whatever fails in a run, a rule that fails closed admits at most `2 * limit` calls
of a key in an interval of its window, and a rule that fails open denies no key that stays within its limit
(`limits_under_failures`).
-/

namespace CleanBackend

/-- What becomes of a check, with the type of the exception. -/
inductive BackendFate where
  | served
  | refused (errorType : String)
  | answerLost (errorType : String)
  deriving DecidableEq, Repr

def BackendFate.hit : BackendFate → HitFate
  | served => .served
  | refused _ => .refused
  | answerLost _ => .answerLost

/-- The backend behind a connection that fails at some checks. -/
def RateLimiterBackend.unreliable {σ : Type} (B : RateLimiterBackend σ) :
    RateLimiterBackend (σ × (Nat → BackendFate)) where
  check state now key limit windowSeconds :=
    let (answer, store) := B.check state.1 now key limit windowSeconds
    let fates := fun n => state.2 (n + 1)
    match state.2 0 with
    | .served => (answer, (store, fates))
    | .refused errorType => (.error errorType, (state.1, fates))
    | .answerLost errorType => (.error errorType, (store, fates))

/-- A `RateLimiter` over Redis behind such a connection. -/
def unreliableRateLimiter (defaultFailOpen : Bool) : RateLimiter (RedisStore String × (Nat → BackendFate)) :=
  { backend := redisRateLimiterBackend.unreliable, defaultFailOpen }

/-- The calls of one key: the time of each, and whether it was admitted. -/
def verdictsOf (failOpen : Bool) (state : RedisStore String × (Nat → BackendFate)) (calls : List RateLimitCall)
    (key : String) : List (ℚ × Bool) :=
  (((unreliableRateLimiter failOpen).enforceAll state calls).filter fun r => decide (r.1.key = key)).map
    fun r => (r.1.now, r.2.isOk)

/-- The calls of one key, and what becomes of their checks. -/
def hitsOf : (Nat → BackendFate) → List RateLimitCall → String → List (ℚ × HitFate)
  | _, [], _ => []
  | fates, c :: calls, key =>
    if c.key = key then (c.now, (fates 0).hit) :: hitsOf (fun n => fates (n + 1)) calls key
    else hitsOf (fun n => fates (n + 1)) calls key

section Run

variable {failOpen : Bool} {redis : RedisStore String} {fake : FakeRateLimiterBackend} {fates : Nat → BackendFate}
  {calls : List RateLimitCall} {key : String} {now : ℚ}

private theorem hitsOf_times (fates : Nat → BackendFate) (calls : List RateLimitCall) (key : String) :
    (hitsOf fates calls key).map Prod.fst = timesOf calls key := by
  induction calls generalizing fates with
  | nil => rfl
  | cons c calls ih =>
    have hrest := ih fun n => fates (n + 1)
    unfold timesOf at *
    by_cases hk : c.key = key
    · rw [hitsOf, if_pos hk, List.filter_cons_of_pos (by simpa using hk), List.map_cons, List.map_cons, hrest]
    · rw [hitsOf, if_neg hk, List.filter_cons_of_neg (by simpa using hk), hrest]

/-- One call: the store after it, and whether it is admitted. -/
private theorem unreliable_enforceCall (failOpen : Bool) (redis : RedisStore String) (fates : Nat → BackendFate)
    (c : RateLimitCall) :
    let checked := RedisRateLimiterBackend.check redis c.now c.key c.rule.limit c.rule.windowSeconds
    ((unreliableRateLimiter failOpen).enforceCall (redis, fates) c).2 =
        (if (fates 0).hit.counted then checked.2 else redis, fun n => fates (n + 1)) ∧
      ((unreliableRateLimiter failOpen).enforceCall (redis, fates) c).1.isOk =
        if fates 0 = .served then decide (checked.1.count ≤ c.rule.limit) else c.rule.failOpen.getD failOpen := by
  intro checked
  have hcheck : (unreliableRateLimiter failOpen).backend.check (redis, fates) c.now c.key c.rule.limit
      c.rule.windowSeconds = match fates 0 with
        | .served => (.ok checked.1, (checked.2, fun n => fates (n + 1)))
        | .refused errorType => (.error errorType, (redis, fun n => fates (n + 1)))
        | .answerLost errorType => (.error errorType, (checked.2, fun n => fates (n + 1))) := rfl
  cases hf : fates 0 with
  | served =>
    rw [hf] at hcheck
    have h := RateLimiter.enforce_of_ok hcheck
    unfold RateLimiter.enforceCall
    rw [h]
    refine ⟨rfl, ?_⟩
    unfold RateLimitRule.judge
    by_cases hc : checked.1.count ≤ c.rule.limit <;> simp [hc, Except.isOk, Except.toBool]
  | refused errorType | answerLost errorType =>
    rw [hf] at hcheck
    obtain ⟨hstate, hok⟩ := RateLimiter.enforce_of_error hcheck
    refine ⟨hstate, ?_⟩
    rw [if_neg (by simp)]
    exact Bool.eq_iff_iff.2 hok

theorem verdictsOf_cons (failOpen : Bool) (state : RedisStore String × (Nat → BackendFate)) (c : RateLimitCall)
    (calls : List RateLimitCall) (key : String) :
    verdictsOf failOpen state (c :: calls) key =
      (if c.key = key then [(c.now, ((unreliableRateLimiter failOpen).enforceCall state c).1.isOk)] else []) ++
        verdictsOf failOpen ((unreliableRateLimiter failOpen).enforceCall state c).2 calls key := by
  unfold verdictsOf
  rw [RateLimiter.enforceAll]
  by_cases hk : c.key = key
  · rw [if_pos hk, List.filter_cons_of_pos (by simpa using hk)]
    rfl
  · rw [if_neg hk, List.filter_cons_of_neg (by simpa using hk)]
    rfl

/-- The verdicts on a key are those of its fixed-window counter behind the connection. -/
private theorem verdictsOf_eq {rule : RateLimitRule} (hrule : ∀ c ∈ calls, c.key = key → c.rule = rule)
    (hlimit : 0 ≤ rule.limit) (hW : ∀ c ∈ calls, 1 ≤ c.rule.windowSeconds) (hclock : calls.Pairwise (·.now ≤ ·.now))
    (hnow : ∀ c ∈ calls, now ≤ c.now) (hrel : Related now redis fake) (hcnt : Counting now redis) :
    verdictsOf failOpen (redis, fates) calls key =
      FixedWindow.verdicts (rule.windowSeconds : ℚ) rule.limit.toNat (rule.failOpen.getD failOpen)
        (fake.windows.get key) (hitsOf fates calls key) := by
  induction calls generalizing redis fake fates now with
  | nil => rfl
  | cons c calls ih =>
    rw [List.pairwise_cons] at hclock
    have hle : now ≤ c.now := hnow c List.mem_cons_self
    obtain ⟨hstate, hok⟩ := unreliable_enforceCall failOpen redis fates c
    obtain ⟨htally, hrel', hcnt'⟩ :=
      (hrel.later hle).check (hcnt.later hle) c.key c.rule.limit (hW c List.mem_cons_self)
    have hcount := congrArg Prod.fst htally
    rw [FakeRateLimiterBackend.check_eq] at hcount hrel'
    have hget : ∀ window, PyDict.get (PyDict.set fake.windows c.key window) key =
        if c.key = key then some window else fake.windows.get key := fun window => PyDict.get_set _ _ _ _
    have hrest : ∀ {redis' fake'}, Related c.now redis' fake' → Counting c.now redis' →
        verdictsOf failOpen (redis', fun n => fates (n + 1)) calls key =
          FixedWindow.verdicts (rule.windowSeconds : ℚ) rule.limit.toNat (rule.failOpen.getD failOpen)
            (fake'.windows.get key) (hitsOf (fun n => fates (n + 1)) calls key) := fun hr hc =>
      ih (fun c' hc' => hrule c' (List.mem_cons_of_mem c hc')) (fun c' hc' => hW c' (List.mem_cons_of_mem c hc'))
        hclock.2 hclock.1 hr hc
    rw [verdictsOf_cons, hok, hstate, hitsOf]
    -- a call on another key leaves the counter, whatever its fate
    by_cases hk : c.key = key
    · have hr : c.rule = rule := hrule c List.mem_cons_self hk
      have hle' : (Window.hit (rule.windowSeconds : ℚ) (fake.windows.get key) c.now).count ≤ rule.limit ↔
          (Window.hit (rule.windowSeconds : ℚ) (fake.windows.get key) c.now).count ≤ (rule.limit.toNat : Int) := by
        rw [Int.toNat_of_nonneg hlimit]
      rw [if_pos hk, if_pos hk, hr]
      -- a lost answer is counted, a refused call is not
      cases hf : fates 0 with
      | served =>
        have h := hrest hrel' hcnt'
        rw [hget, if_pos hk, hk, hr] at h
        rw [hk, hr] at hcount
        have hverdict : decide ((RedisRateLimiterBackend.check redis c.now key rule.limit
            rule.windowSeconds).1.count ≤
            rule.limit) = decide ((Window.hit (rule.windowSeconds : ℚ) (fake.windows.get key) c.now).count ≤
              (rule.limit.toNat : Int)) := by
          rw [decide_eq_decide, ← hle']
          exact iff_of_eq (congrArg (· ≤ rule.limit) hcount)
        rw [if_pos rfl, hk, hverdict]
        exact congrArg (_ :: ·) h
      | refused errorType =>
        exact congrArg (_ :: ·) (hrest (hrel.later hle) (hcnt.later hle))
      | answerLost errorType =>
        have h := hrest hrel' hcnt'
        rw [hget, if_pos hk, hk, hr] at h
        rw [hk]
        exact congrArg (_ :: ·) h
    · rw [if_neg hk, if_neg hk, List.nil_append]
      cases hf : (fates 0).hit.counted with
      | true =>
        have h := hrest hrel' hcnt'
        rw [hget, if_neg hk] at h
        exact h
      | false => exact hrest (hrel.later hle) (hcnt.later hle)

private theorem hitsOf_served (h : ∀ i, fates i = .served) : ∀ hit ∈ hitsOf fates calls key, hit.2 = .served := by
  induction calls generalizing fates with
  | nil => simp [hitsOf]
  | cons c calls ih =>
    intro hit hhit
    have hrest := ih fun i => h (i + 1)
    unfold hitsOf at hhit
    split at hhit
    · rcases List.mem_cons.1 hhit with rfl | hhit
      · show (fates 0).hit = .served
        rw [h 0]
        rfl
      · exact hrest hit hhit
    · exact hrest hit hhit

section Rule

variable {rule : RateLimitRule} (hrule : ∀ c ∈ calls, c.key = key → c.rule = rule) (hlimit : 0 ≤ rule.limit)
  (hwindow : 1 ≤ rule.windowSeconds) (hW : ∀ c ∈ calls, 1 ≤ c.rule.windowSeconds)
  (hclock : calls.Pairwise (·.now ≤ ·.now))
include hrule hlimit hW hclock

private theorem verdictsOf_empty : verdictsOf failOpen ({}, fates) calls key =
    FixedWindow.verdicts (rule.windowSeconds : ℚ) rule.limit.toNat (rule.failOpen.getD failOpen) none
      (hitsOf fates calls key) := by
  obtain ⟨start, hstart⟩ : ∃ start : ℚ, ∀ c ∈ calls, start ≤ c.now := by
    cases calls with
    | nil => exact ⟨0, fun c hc => by cases hc⟩
    | cons c calls =>
      refine ⟨c.now, fun c' hc' => ?_⟩
      rcases List.mem_cons.1 hc' with rfl | hc'
      · exact le_rfl
      · exact (List.pairwise_cons.1 hclock).1 c' hc'
  have hrelated : Related start {} ({} : FakeRateLimiterBackend) := fun _ => rfl
  exact verdictsOf_eq hrule hlimit hW hclock hstart hrelated fun key entry he => by cases he

/-- With no failure, the fail mode decides nothing. -/
private theorem verdictsOf_served (h : ∀ i, fates i = .served) (default : Bool) :
    verdictsOf failOpen ({}, fates) calls key =
    FixedWindow.verdicts (rule.windowSeconds : ℚ) rule.limit.toNat default none (hitsOf fates calls key) := by
  rw [verdictsOf_empty hrule hlimit hW hclock]
  exact FixedWindow.verdicts_of_served (hitsOf_served h) none _ _

include hwindow

theorem admitted_within (hclosed : rule.failOpen.getD failOpen = false ∨ ∀ i, fates i = .served) (a : ℚ) :
    (((((verdictsOf failOpen ({}, fates) calls key).filter Prod.snd).map Prod.fst).countP
      fun t => decide (a ≤ t ∧ t < a + rule.windowSeconds) : Nat) : Int) ≤ 2 * rule.limit := by
  have hverdicts : verdictsOf failOpen ({}, fates) calls key = FixedWindow.verdicts (rule.windowSeconds : ℚ)
      rule.limit.toNat false none (hitsOf fates calls key) := by
    rcases hclosed with hclosed | hserved
    · rw [verdictsOf_empty hrule hlimit hW hclock, hclosed]
    · exact verdictsOf_served hrule hlimit hW hclock hserved false
  have hsorted : ((hitsOf fates calls key).map Prod.fst).Pairwise (· ≤ ·) :=
    hitsOf_times fates calls key ▸ timesOf_sorted hclock key
  have hpos : (0 : ℚ) < rule.windowSeconds := by exact_mod_cast hwindow
  have h : _ ≤ 2 * rule.limit.toNat := FixedWindow.admitted_le hpos hsorted a
  rw [hverdicts, ← Int.toNat_of_nonneg hlimit]
  exact_mod_cast h

theorem calm_admitted (hopen : rule.failOpen.getD failOpen = true ∨ ∀ i, fates i = .served)
    (hcalm : ∀ a : ℚ, (((timesOf calls key).countP fun t => decide (a ≤ t ∧
      t < a + rule.windowSeconds) : Nat) : Int) ≤ rule.limit) :
    ∀ v ∈ verdictsOf failOpen ({}, fates) calls key, v.2 = true := by
  have hverdicts : verdictsOf failOpen ({}, fates) calls key = FixedWindow.verdicts (rule.windowSeconds : ℚ)
      rule.limit.toNat true none (hitsOf fates calls key) := by
    rcases hopen with hopen | hserved
    · rw [verdictsOf_empty hrule hlimit hW hclock, hopen]
    · exact verdictsOf_served hrule hlimit hW hclock hserved true
  have htimes := hitsOf_times fates calls key
  have hsorted : ((hitsOf fates calls key).map Prod.fst).Pairwise (· ≤ ·) := htimes ▸ timesOf_sorted hclock key
  intro v hv
  rw [hverdicts] at hv
  obtain ⟨t, admitted⟩ := v
  by_contra hdenied
  obtain rfl : admitted = false := by simpa using hdenied
  have hpos : (0 : ℚ) < rule.windowSeconds := by exact_mod_cast hwindow
  obtain ⟨a, ha⟩ := FixedWindow.refused_crowded hpos hsorted hv
  rw [htimes] at ha
  have h := hcalm a
  rw [← Int.toNat_of_nonneg hlimit] at h
  exact absurd ha (not_lt.2 (by exact_mod_cast h))

end Rule

end Run

/-- Over a run of `enforce` on an empty Redis that fails at any checks: where the rule of a key fails closed, no
interval of the length of its window admits more than `2 * limit` of its calls; where it fails open, a key with at
most `limit` calls in every such interval is never denied. -/
theorem limits_under_failures (defaultFailOpen : Bool) (fates : Nat → BackendFate) (calls : List RateLimitCall)
    (hrules : ∀ c ∈ calls, 0 ≤ c.rule.limit ∧ 1 ≤ c.rule.windowSeconds)
    (hkeys : ∀ c ∈ calls, ∀ c' ∈ calls, (c.rule, c.identifier) ≠ (c'.rule, c'.identifier) → c.key ≠ c'.key)
    (hclock : calls.Pairwise (·.now ≤ ·.now)) (call : RateLimitCall) (hcall : call ∈ calls) :
    let verdicts := verdictsOf defaultFailOpen ({}, fates) calls call.key
    let within := fun a t : ℚ => decide (a ≤ t ∧ t < a + call.rule.windowSeconds)
    (call.rule.failOpen.getD defaultFailOpen = false → ∀ a : ℚ,
      ((((verdicts.filter Prod.snd).map Prod.fst).countP (within a) : Nat) : Int) ≤ 2 * call.rule.limit) ∧
    (call.rule.failOpen.getD defaultFailOpen = true →
      (∀ a : ℚ, (((timesOf calls call.key).countP (within a) : Nat) : Int) ≤ call.rule.limit) →
      ∀ v ∈ verdicts, v.2 = true) := by
  obtain ⟨hlimit, hwindow⟩ := hrules call hcall
  have hW : ∀ c ∈ calls, 1 ≤ c.rule.windowSeconds := fun c hc => (hrules c hc).2
  have hrule : ∀ c ∈ calls, c.key = call.key → c.rule = call.rule := by
    intro c hc hk
    by_contra hne
    exact hkeys c hc call hcall (fun he => hne (Prod.mk.inj he).1) hk
  exact ⟨fun hclosed => admitted_within hrule hlimit hwindow hW hclock (Or.inl hclosed),
    fun hopen => calm_admitted hrule hlimit hwindow hW hclock (Or.inl hopen)⟩

/-- A rule that fails closed, while the answer to its second check is lost. -/
def lossyRefunds : List RateLimitCall :=
  let rule : RateLimitRule := ⟨"payment.refund", 2, 60, .user, some false⟩
  [⟨0, rule, "user-1"⟩, ⟨10, rule, "user-1"⟩, ⟨20, rule, "user-1"⟩]

def secondAnswerLost : Nat → BackendFate
  | 1 => .answerLost "TimeoutError"
  | _ => .served

theorem limits_under_failures_refunds :
    timesOf lossyRefunds "app:rl:payment.refund:user:user-1" = [0, 10, 20] ∧
      ∀ a : ℚ, (((((verdictsOf true ({}, secondAnswerLost) lossyRefunds "app:rl:payment.refund:user:user-1").filter
        Prod.snd).map Prod.fst).countP fun t => decide (a ≤ t ∧ t < a + ((60 : Int) : ℚ)) : Nat) : Int) ≤ 2 * 2 := by
  have hkey : RateLimitCall.key ⟨0, ⟨"payment.refund", 2, 60, .user, some false⟩, "user-1"⟩ =
      "app:rl:payment.refund:user:user-1" := by decide
  have h := (limits_under_failures true secondAnswerLost lossyRefunds (by decide) (by decide) (by decide)
    ⟨0, ⟨"payment.refund", 2, 60, .user, some false⟩, "user-1"⟩ (by decide)).1 rfl
  rw [hkey] at h
  refine ⟨by decide, h⟩

end CleanBackend
