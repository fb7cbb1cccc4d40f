import CleanBackend.Core.MiddlewareStack

/-!
# The ceiling of a client address

The rule `global.ip` allows an address 300 requests in 60 seconds.  In every interleaving of the server, with route
limits on the same limiter and a Redis that may fail, the limiter lets at most 600 requests of an address through in
any 60 seconds of its checks as long as failures deny, and an address that keeps to its limit is never denied as long
as they admit (`global_ceiling`).
-/

namespace CleanBackend

/-- The identifier of the dependency `rate_limit`. -/
def dependencyIdentifier (rule : RateLimitRule) (settings : RateLimitSettings) (principal : RateLimitPrincipal)
    (request : HttpRequest) : String :=
  if rule.scope = .user then principal.userId
  else if rule.scope = .tenant then principal.tenantId
  else requestIdentifier rule.scope settings request

namespace StackEvent

/-- What an event calls the limiter with. -/
def calls (settings : RateLimitSettings) : StackEvent → List RateLimitCall
  | arrives a =>
    if isExempt a.request.path settings.apiPrefix then []
    else [⟨a.now, globalIpRule, middlewareIdentifier settings a.request⟩]
  | limits now ruleName principal request =>
    (getRule ruleName).toList.map fun rule => ⟨now, rule, dependencyIdentifier rule settings principal request⟩
  | answers _ _ => []

/-- The rule that a route names. -/
def ruleName : StackEvent → Option String
  | limits _ ruleName _ _ => some ruleName
  | arrives _ | answers _ _ => none

end StackEvent

def callsOf (settings : RateLimitSettings) (events : List StackEvent) : List RateLimitCall :=
  events.flatMap (StackEvent.calls settings)

/-- A request that is checked in the bucket of `identifier`. -/
def inBucket (settings : RateLimitSettings) (identifier : String) (a : Arrival) : Bool :=
  !isExempt a.request.path settings.apiPrefix &&
    decide (RateLimitKeyBuilder.build globalIpRule (middlewareIdentifier settings a.request) =
      RateLimitKeyBuilder.build globalIpRule identifier)

section Calls

variable {settings : RateLimitSettings} {events : List StackEvent} {identifier ruleName : String}
  {rule : RateLimitRule}

private theorem calls_exempt {a : Arrival} (h : isExempt a.request.path settings.apiPrefix = true) :
    (StackEvent.arrives a).calls settings = [] := if_pos h

private theorem calls_checked {a : Arrival} (h : isExempt a.request.path settings.apiPrefix = false) :
    (StackEvent.arrives a).calls settings = [⟨a.now, globalIpRule, middlewareIdentifier settings a.request⟩] :=
  if_neg (by simp [h])

private theorem calls_unknown {now : ℚ} {principal : RateLimitPrincipal} {request : HttpRequest}
    (h : getRule ruleName = none) : (StackEvent.limits now ruleName principal request).calls settings = [] := by
  rw [StackEvent.calls, h]
  rfl

private theorem calls_known {now : ℚ} {principal : RateLimitPrincipal} {request : HttpRequest}
    (h : getRule ruleName = some rule) : (StackEvent.limits now ruleName principal request).calls settings =
      [⟨now, rule, dependencyIdentifier rule settings principal request⟩] := by
  rw [StackEvent.calls, h]
  rfl

/-- The rules of the calls are those of the table. -/
private theorem rule_of_call {c : RateLimitCall} (hc : c ∈ callsOf settings events) :
    getRule c.rule.name = some c.rule := by
  obtain ⟨event, -, hc⟩ := List.mem_flatMap.1 hc
  cases event with
  | arrives a =>
    cases hexempt : isExempt a.request.path settings.apiPrefix with
    | true =>
      rw [calls_exempt hexempt] at hc
      cases hc
    | false =>
      rw [calls_checked hexempt] at hc
      obtain rfl := List.mem_singleton.1 hc
      exact getRule_globalIp
  | limits now ruleName principal request =>
    obtain ⟨rule, hrule, rfl⟩ := List.mem_map.1 hc
    have hget : getRule ruleName = some rule := by simpa using hrule
    show getRule rule.name = some rule
    rw [(findBy_some hget).2, hget]
  | answers i answer => cases hc

private theorem rule_mem (h : getRule ruleName = some rule) : rule ∈ rateLimitRules := (findBy_some h).1

/-- Only calls of the rule reach a bucket of it. -/
private theorem rule_of_key {c : RateLimitCall} (hc : getRule c.rule.name = some c.rule)
    (hkey : c.key = RateLimitKeyBuilder.build globalIpRule identifier) : c.rule = globalIpRule := by
  have hname : c.rule.name = globalIpRuleName :=
    ((build_eq_iff (rateLimitRules_names _ (rule_mem hc)) (by decide) c.identifier identifier).1 hkey).1
  rw [hname, getRule_globalIp] at hc
  exact (Option.some.inj hc).symm

private theorem callsOf_cons (event : StackEvent) (events : List StackEvent) :
    callsOf settings (event :: events) = event.calls settings ++ callsOf settings events := rfl

/-- The calls are made in the order of the clock. -/
private theorem callsOf_sorted (settings : RateLimitSettings)
    (hclock : (events.filterMap StackEvent.now).Pairwise (· ≤ ·)) :
    (callsOf settings events).Pairwise (·.now ≤ ·.now) := by
  rw [← List.pairwise_map]
  refine hclock.sublist ?_
  clear hclock
  induction events with
  | nil => exact List.Sublist.slnil
  | cons event events ih =>
    rw [callsOf_cons, List.map_append]
    cases event with
    | arrives a =>
      cases hexempt : isExempt a.request.path settings.apiPrefix with
      | true =>
        rw [calls_exempt hexempt]
        exact ih.cons a.now
      | false =>
        rw [calls_checked hexempt]
        exact ih.cons_cons a.now
    | limits now ruleName principal request =>
      cases hget : getRule ruleName with
      | none =>
        rw [calls_unknown hget]
        exact ih.cons now
      | some rule =>
        rw [calls_known hget]
        exact ih.cons_cons now
    | answers i answer => exact ih

/-- Where no route names the rule, the calls of a bucket are the requests in it. -/
private theorem timesOf_callsOf (hroutes : ∀ event ∈ events, event.ruleName ≠ some globalIpRuleName) :
    timesOf (callsOf settings events) (RateLimitKeyBuilder.build globalIpRule identifier) =
      ((arrivalsOf events).filter (inBucket settings identifier)).map Arrival.now := by
  unfold timesOf
  induction events with
  | nil => rfl
  | cons event events ih =>
    have hrest := ih fun event hevent => hroutes event (List.mem_cons_of_mem _ hevent)
    rw [callsOf_cons, List.filter_append, List.map_append, hrest]
    cases event with
    | arrives a =>
      show _ = ((a :: arrivalsOf events).filter (inBucket settings identifier)).map Arrival.now
      cases hexempt : isExempt a.request.path settings.apiPrefix with
      | true =>
        rw [calls_exempt hexempt]
        simp [inBucket, hexempt]
      | false =>
        rw [calls_checked hexempt]
        by_cases hkey : RateLimitKeyBuilder.build globalIpRule (middlewareIdentifier settings a.request) =
            RateLimitKeyBuilder.build globalIpRule identifier
        · simp [inBucket, hexempt, RateLimitCall.key, hkey]
        · simp [inBucket, hexempt, RateLimitCall.key, hkey]
    | limits now ruleName principal request =>
      -- the key of another rule is another key
      have hnone : ((StackEvent.limits now ruleName principal request).calls settings).filter
          (fun c => decide (c.key = RateLimitKeyBuilder.build globalIpRule identifier)) = [] := by
        rw [List.filter_eq_nil_iff]
        intro c hc hkey
        obtain ⟨rule, hrule, rfl⟩ := List.mem_map.1 hc
        have hget : getRule ruleName = some rule := by simpa using hrule
        have hname : rule.name = ruleName := (findBy_some hget).2
        have hglobal : rule = globalIpRule := rule_of_key (hname ▸ hget) (of_decide_eq_true hkey)
        refine hroutes _ List.mem_cons_self ?_
        rw [StackEvent.ruleName, ← hname, hglobal]
        rfl
      rw [hnone]
      rfl
    | answers i answer => rfl

end Calls

section Run

variable {settings : RateLimitSettings} {identifier : String} {failOpen : Bool}
  {s : StackState (RedisStore String × (Nat → BackendFate))}

private theorem rateLimit_unknown {β : Type} {ruleName : String} (h : getRule ruleName = none)
    (limiter : Option (RateLimiter β)) (state : β) (now : ℚ) (principal : RateLimitPrincipal)
    (request : HttpRequest) :
    rateLimit ruleName limiter settings state now principal request = none := by
  unfold rateLimit
  rw [h]
  rfl

theorem rateLimit_known {β : Type} {L : RateLimiter β} {ruleName : String} {rule : RateLimitRule}
    (h : getRule ruleName = some rule) (state : β) (now : ℚ) (principal : RateLimitPrincipal)
    (request : HttpRequest) :
    let called := L.enforceCall state ⟨now, rule, dependencyIdentifier rule settings principal request⟩
    rateLimit ruleName (some L) settings state now principal request = some (called.1.map fun _ => (), called.2) := by
  unfold rateLimit dependencyIdentifier
  rw [h]
  cases hscope : rule.scope <;> simp [RateLimiter.enforceCall, hscope]

theorem verdictsOf_append (state : RedisStore String × (Nat → BackendFate)) (calls calls' : List RateLimitCall)
    (key : String) : verdictsOf failOpen state (calls ++ calls') key =
      verdictsOf failOpen state calls key ++
        verdictsOf failOpen ((unreliableRateLimiter failOpen).afterAll state calls) calls' key := by
  induction calls generalizing state with
  | nil => rfl
  | cons c calls ih =>
    rw [List.cons_append, verdictsOf_cons, verdictsOf_cons, ih, List.append_assoc]
    rfl

/-- Of the requests in a bucket, no more are handed on than are admitted, and all are when every one is. -/
def HandsOn (settings : RateLimitSettings) (identifier : String) (verdicts : List (ℚ × Bool))
    (requests handedOn : List Arrival) : Prop :=
  ((handedOn.filter (inBucket settings identifier)).map Arrival.now).Sublist
      ((verdicts.filter Prod.snd).map Prod.fst) ∧
    ((∀ v ∈ verdicts, v.2 = true) →
      handedOn.filter (inBucket settings identifier) = requests.filter (inBucket settings identifier))

private theorem HandsOn.append {verdicts verdicts' : List (ℚ × Bool)}
    {requests requests' handedOn handedOn' : List Arrival}
    (h : HandsOn settings identifier verdicts requests handedOn)
    (h' : HandsOn settings identifier verdicts' requests' handedOn') :
    HandsOn settings identifier (verdicts ++ verdicts') (requests ++ requests') (handedOn ++ handedOn') := by
  refine ⟨?_, fun hall => ?_⟩
  · rw [List.filter_append, List.filter_append, List.map_append, List.map_append]
    exact h.1.append h'.1
  · rw [List.filter_append, List.filter_append, h.2 fun v hv => hall v (List.mem_append_left _ hv),
      h'.2 fun v hv => hall v (List.mem_append_right _ hv)]

/-- What is handed on in a step, and the calls that the limiter has seen. -/
private theorem handsOn_step (settings : RateLimitSettings) (identifier : String) (failOpen : Bool)
    (s : StackState (RedisStore String × (Nat → BackendFate))) (event : StackEvent) :
    let s' := s.step (some (unreliableRateLimiter failOpen)) settings event
    s'.limiter = (unreliableRateLimiter failOpen).afterAll s.limiter (event.calls settings) ∧
      ∃ handedOn, s'.reached = s.reached ++ handedOn ∧
        HandsOn settings identifier (verdictsOf failOpen s.limiter (event.calls settings)
          (RateLimitKeyBuilder.build globalIpRule identifier)) event.arrival.toList handedOn := by
  have hquiet : HandsOn settings identifier [] [] [] := ⟨List.Sublist.slnil, fun _ => rfl⟩
  cases event with
  | arrives a =>
    cases hexempt : isExempt a.request.path settings.apiPrefix with
    | true =>
      rw [StackState.step, dispatch_unchecked (by simp [passesUnchecked, hexempt]), calls_exempt hexempt]
      refine ⟨rfl, [a], rfl, ?_, fun _ => rfl⟩
      simp [inBucket, hexempt]
    | false =>
      rw [StackState.step, calls_checked hexempt, verdictsOf_cons]
      have hkey : RateLimitCall.key ⟨a.now, globalIpRule, middlewareIdentifier settings a.request⟩ =
          RateLimitKeyBuilder.build globalIpRule identifier ↔ inBucket settings identifier a = true := by
        simp [inBucket, hexempt, RateLimitCall.key]
      -- the limiter lets the request through, or it is answered with 429
      rcases dispatch_checked (unreliableRateLimiter failOpen) hexempt with ⟨hok, hnext⟩ | ⟨hok, exc, -, hlimited⟩
      · rw [hnext, hok]
        refine ⟨rfl, [a], rfl, ?_, fun _ => rfl⟩
        by_cases hb : inBucket settings identifier a = true
        · rw [if_pos (hkey.2 hb)]
          simp [hb, verdictsOf, RateLimiter.enforceAll]
        · simp [hb]
      · rw [hlimited, hok]
        refine ⟨rfl, [], (List.append_nil _).symm, List.nil_sublist _, fun hall => ?_⟩
        by_cases hb : inBucket settings identifier a = true
        · rw [if_pos (hkey.2 hb)] at hall
          simpa using hall _ List.mem_cons_self
        · show [] = [a].filter (inBucket settings identifier)
          simp [hb]
  | limits now ruleName principal request =>
    rw [StackState.step]
    cases hget : getRule ruleName with
    | none =>
      rw [rateLimit_unknown hget, calls_unknown hget]
      exact ⟨rfl, [], (List.append_nil _).symm, hquiet⟩
    | some rule =>
      rw [rateLimit_known hget, calls_known hget]
      exact ⟨rfl, [], (List.append_nil _).symm, List.nil_sublist _, fun _ => rfl⟩
  | answers i answer =>
    rw [StackState.step]
    cases s.inFlight[i]? with
    | none => exact ⟨rfl, [], (List.append_nil _).symm, hquiet⟩
    | some a => exact ⟨rfl, [], (List.append_nil _).symm, hquiet⟩

private theorem handsOn_run (settings : RateLimitSettings) (identifier : String) (failOpen : Bool)
    (s : StackState (RedisStore String × (Nat → BackendFate))) (events : List StackEvent) :
    ∃ handedOn, (s.run (some (unreliableRateLimiter failOpen)) settings events).reached = s.reached ++ handedOn ∧
      HandsOn settings identifier (verdictsOf failOpen s.limiter (callsOf settings events)
        (RateLimitKeyBuilder.build globalIpRule identifier)) (arrivalsOf events) handedOn := by
  induction events generalizing s with
  | nil => exact ⟨[], (List.append_nil _).symm, List.Sublist.slnil, fun _ => rfl⟩
  | cons event events ih =>
    obtain ⟨hlimiter, first, hfirst, hstep⟩ := handsOn_step settings identifier failOpen s event
    obtain ⟨handedOn, hreached, hrun⟩ := ih (s.step (some (unreliableRateLimiter failOpen)) settings event)
    refine ⟨first ++ handedOn, ?_, ?_⟩
    · rw [← List.append_assoc, ← hfirst, ← hreached]
      rfl
    · rw [callsOf_cons, verdictsOf_append, arrivalsOf_cons, ← hlimiter]
      exact hstep.append hrun

end Run

/-- In every interleaving of the server over an empty Redis that fails at any checks, where a request has the time of
its check by the limiter: as long as failures deny, of the requests of a bucket that reach the app no more than 600
are checked in any 60 seconds, and as long as they admit, a bucket with at most 300 checks in any 60 seconds sees each
of its requests at the app, provided that no route names the rule itself. -/
theorem global_ceiling (settings : RateLimitSettings) (failOpen : Bool) (fates : Nat → BackendFate)
    (events : List StackEvent) (hclock : (events.filterMap StackEvent.now).Pairwise (· ≤ ·)) (identifier : String) :
    let s := (StackState.start ({}, fates)).run (some (unreliableRateLimiter failOpen)) settings events
    let bucket := inBucket settings identifier
    let within := fun (t : ℚ) (a : Arrival) => decide (t ≤ a.now ∧ a.now < t + 60)
    (failOpen = false ∨ (∀ i, fates i = .served) → ∀ t, (s.reached.filter bucket).countP (within t) ≤ 600) ∧
    (failOpen = true ∨ (∀ i, fates i = .served) →
      (∀ event ∈ events, event.ruleName ≠ some globalIpRuleName) →
      (∀ t, ((arrivalsOf events).filter bucket).countP (within t) ≤ 300) →
      s.reached.filter bucket = (arrivalsOf events).filter bucket) := by
  intro s bucket within
  obtain ⟨handedOn, hreached, hsub, hall⟩ := handsOn_run settings identifier failOpen (StackState.start ({}, fates))
    events
  have hreached : s.reached = handedOn := hreached
  have hrule : ∀ c ∈ callsOf settings events, c.key = RateLimitKeyBuilder.build globalIpRule identifier →
      c.rule = globalIpRule := fun c hc => rule_of_key (rule_of_call hc)
  have hW : ∀ c ∈ callsOf settings events, 1 ≤ c.rule.windowSeconds := by
    -- the rules of the table all have a window
    have htable : ∀ rule ∈ rateLimitRules, 1 ≤ rule.windowSeconds := by decide
    exact fun c hc => htable _ (rule_mem (rule_of_call hc))
  have hsorted := callsOf_sorted settings hclock
  have hcount : ∀ (requests : List Arrival) (t : ℚ), requests.countP (within t) =
      (requests.map Arrival.now).countP fun now => decide (t ≤ now ∧ now < t + (globalIpRule.windowSeconds : ℚ)) := by
    intro requests t
    rw [List.countP_map]
    rfl
  rw [hreached]
  refine ⟨fun hclosed t => ?_, fun hopen hroutes hcalm => ?_⟩
  · rw [hcount]
    refine hsub.countP_le.trans ?_
    have hbound : _ ≤ 2 * (300 : Int) := admitted_within hrule (by decide) (by decide) hW hsorted hclosed t
    exact_mod_cast hbound
  · refine hall (calm_admitted hrule (by decide) (by decide) hW hsorted hopen fun t => ?_)
    rw [timesOf_callsOf hroutes, ← hcount]
    have hlimit : globalIpRule.limit = 300 := rfl
    have hle := hcalm t
    rw [hlimit]
    exact_mod_cast hle

/-- Two requests of an address, with the limit of a route in between. -/
def twoRequests : List StackEvent :=
  let request : HttpRequest := ⟨some "203.0.113.7", [], "/api/v1/_authz-demo/orders", "POST"⟩
  [.arrives ⟨0, "6f1c", request⟩, .limits 1 "booking.create" ⟨"user-1", "tenant-1"⟩ request, .answers 0 none,
    .arrives ⟨20, "9ab3", request⟩]

theorem global_ceiling_two_requests :
    let s := (StackState.start ({}, fun _ => .served)).run (some (unreliableRateLimiter false)) ⟨"/api/v1", []⟩
      twoRequests
    (∀ t, (s.reached.filter (inBucket ⟨"/api/v1", []⟩ "203.0.113.7")).countP
      (fun a => decide (t ≤ a.now ∧ a.now < t + 60)) ≤ 600) ∧
    s.reached.filter (inBucket ⟨"/api/v1", []⟩ "203.0.113.7") =
      (arrivalsOf twoRequests).filter (inBucket ⟨"/api/v1", []⟩ "203.0.113.7") := by
  have h := global_ceiling ⟨"/api/v1", []⟩ false (fun _ => .served) twoRequests (by decide) "203.0.113.7"
  refine ⟨h.1 (Or.inl rfl), h.2 (Or.inr fun _ => rfl) ?_ fun t => ?_⟩
  · intro event hevent
    simp only [twoRequests, List.mem_cons, List.not_mem_nil, or_false] at hevent
    rcases hevent with rfl | rfl | rfl | rfl <;> simp [StackEvent.ruleName, globalIpRuleName]
  · exact List.countP_le_length.trans ((List.length_filter_le _ _).trans (by decide))

end CleanBackend
