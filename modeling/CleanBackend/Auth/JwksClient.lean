import CleanBackend.Lib.Json
import CleanBackend.Lib.Machine
import Mathlib.Algebra.Order.Field.Rat
import Mathlib.Tactic.Linarith

/-!
# The JWKS client

`JwksClient.get_key` under asyncio: a call runs up to a fetch, is suspended there, and runs on when the fetch has
ended; between two awaits nothing else runs.  Any number of calls are in flight.  Every step brings the readings of
the clock it makes, in order, so that the clock may be any one that never goes back.

A fetch that fails changes nothing, and calls do not see each other's fetches.  So the interval between fetches is
kept exactly in the runs in which no fetch starts while one that is younger than the interval is in flight or has
failed.
-/

namespace CleanBackend

/-- The attributes of a client. -/
structure JwksClient where
  ttl : Int
  minRefreshInterval : Int
  keys : PyDict String Json
  fetchedAt : Option ℚ

/-- A fresh client has no keys and has never fetched. -/
def JwksClient.new (cacheTtlSeconds minRefreshIntervalSeconds : Int) : JwksClient :=
  ⟨cacheTtlSeconds, minRefreshIntervalSeconds, [], none⟩

/-- How a fetch ends: with an `httpx.HTTPError` of some class (no connection, a timeout, an error status), with a body
on which `response.json()` raises (it is no JSON, or nested too deeply, or has an integer that is too long), or with
what `response.json()` returns. -/
inductive FetchOutcome where
  | httpError (errorType : String)
  | jsonRaises
  | payload (body : Json)

/-- What `get_key` raises. -/
inductive JwksError where
  /-- `TokenVerificationError("JWKS fetch failed", details={"error_type": …})` -/
  | fetchFailed (errorType : String)
  /-- `TokenVerificationError("Unknown signing key", details={"kid": …})` -/
  | unknownKey (kid : String)
  /-- the exception of `response.json()`, or of reading the payload -/
  | malformedPayload

/-- The loop over `payload.get("keys", [])`; `none` where it raises. -/
def collectKeys (keys : PyDict String Json) : List Json → Option (PyDict String Json)
  | [] => some keys
  | jwk :: jwks => do
    let kid ← jwk.get "kid"
    match kid.bind Json.str? with
    | some kid => if kid = "" then collectKeys keys jwks else collectKeys (keys.set kid jwk) jwks
    | none => collectKeys keys jwks

/-- The dictionary of keys in a payload.  Python also iterates over an empty string or dictionary. -/
def parseKeys (payload : Json) : Option (PyDict String Json) := do
  match ← payload.get "keys" with
  | none => some []
  | some (.arr jwks) => collectKeys [] jwks
  | some (.str s) => if s = "" then some [] else none
  | some (.obj entries) => if entries.isEmpty then some [] else none
  | some _ => none

namespace JwksClient

def isStale (c : JwksClient) (now : ℚ) : Bool :=
  match c.fetchedAt with
  | none => true
  | some fetchedAt => decide ((c.ttl : ℚ) ≤ now - fetchedAt)

def mayRefreshForUnknownKid (c : JwksClient) (now : ℚ) : Bool :=
  match c.fetchedAt with
  | none => true
  | some fetchedAt => decide ((c.minRefreshInterval : ℚ) ≤ now - fetchedAt)

/-- `kid not in self._keys and self._may_refresh_for_unknown_kid()` -/
def refetches (c : JwksClient) (kid : String) (now : ℚ) : Bool :=
  (c.keys.get kid).isNone && c.mayRefreshForUnknownKid now

/-- `_refresh` after its fetch, at the reading `now`: the keys and their time are replaced together, or it raises. -/
def refreshed (c : JwksClient) (now : ℚ) : FetchOutcome → Except JwksError JwksClient
  | .httpError errorType => .error (.fetchFailed errorType)
  | .jsonRaises => .error .malformedPayload
  | .payload body =>
    match parseKeys body with
    | none => .error .malformedPayload
    | some keys => .ok { c with keys, fetchedAt := some now }

end JwksClient

/-! ### Calls in flight -/

inductive JwksPhase where
  /-- awaiting the fetch for a stale cache, and for an unknown `kid` -/
  | staleFetch (startedAt : ℚ)
  | unknownFetch (startedAt : ℚ)
  | preloading
  | preloaded
  | returned (key : Json)
  | raised (error : JwksError)

/-- A call of `get_key(kid)`, or of `preload()`. -/
structure JwksTask where
  kid : Option String
  phase : JwksPhase

/-- The fetch of `get_key` a task awaits. -/
def JwksTask.fetch? (t : JwksTask) : Option ℚ :=
  match t.phase with
  | .staleFetch startedAt | .unknownFetch startedAt => some startedAt
  | _ => none

/-- The client, the last reading of the clock, the calls, and the starting times of the fetches of `get_key`: of all
of them, the latest first, and of those that failed. -/
structure JwksState where
  client : JwksClient
  clock : ℚ
  tasks : List JwksTask
  starts : List ℚ
  failed : List ℚ

namespace JwksState

def init (client : JwksClient) (clock : ℚ) : JwksState := ⟨client, clock, [], [], []⟩

/-- The fetches of `get_key` in flight. -/
def inFlight (s : JwksState) : List ℚ := s.tasks.filterMap JwksTask.fetch?

/-- The end of `get_key`. -/
def answer (c : JwksClient) (kid : String) : JwksPhase :=
  match c.keys.get kid with
  | some key => .returned key
  | none => .raised (.unknownKey kid)

/-- The second check of `get_key`, at the reading `now`; a fetch starts at `τ`. -/
def lookup (s : JwksState) (kid : String) (now τ : ℚ) : JwksState × JwksPhase :=
  if s.client.refetches kid now then ({ s with starts := τ :: s.starts }, .unknownFetch τ)
  else (s, answer s.client kid)

/-- `get_key(kid)` up to its first await. -/
def getKey (s : JwksState) (kid : String) (staleNow unknownNow τ : ℚ) : JwksState × JwksPhase :=
  if s.client.isStale staleNow then ({ s with starts := τ :: s.starts }, .staleFetch τ)
  else s.lookup kid unknownNow τ

/-- A task goes on when its fetch has ended. -/
def resume (s : JwksState) (task : JwksTask) (outcome : FetchOutcome) (fetchedNow unknownNow τ : ℚ) :
    Option (JwksState × JwksPhase) :=
  match task.phase, task.kid, s.client.refreshed fetchedNow outcome with
  | .staleFetch startedAt, some _, .error e => some ({ s with failed := startedAt :: s.failed }, .raised e)
  | .staleFetch _, some kid, .ok client => some (({ s with client } : JwksState).lookup kid unknownNow τ)
  | .unknownFetch startedAt, some _, .error e => some ({ s with failed := startedAt :: s.failed }, .raised e)
  | .unknownFetch _, some kid, .ok client => some ({ s with client }, answer client kid)
  | .preloading, _, .error e => some (s, .raised e)
  | .preloading, _, .ok client => some ({ s with client }, .preloaded)
  | _, _, _ => none

end JwksState

/-- The steps, each with its readings of the clock in the order in which they are made. -/
inductive JwksAction where
  | preload (τ : ℚ)
  | getKey (kid : String) (staleNow unknownNow τ : ℚ)
  | resume (task : Nat) (outcome : FetchOutcome) (fetchedNow unknownNow τ : ℚ)

/-- The client under any interleaving of its calls. -/
def jwksMachine : Machine JwksState JwksAction where
  step s
    | .preload τ =>
      if s.clock ≤ τ then some { s with clock := τ, tasks := s.tasks ++ [⟨none, .preloading⟩] } else none
    | .getKey kid staleNow unknownNow τ =>
      if s.clock ≤ staleNow ∧ staleNow ≤ unknownNow ∧ unknownNow ≤ τ then
        let (s', phase) := s.getKey kid staleNow unknownNow τ
        some { s' with clock := τ, tasks := s.tasks ++ [⟨some kid, phase⟩] }
      else none
    | .resume i outcome fetchedNow unknownNow τ =>
      if s.clock ≤ fetchedNow ∧ fetchedNow ≤ unknownNow ∧ unknownNow ≤ τ then
        s.tasks[i]?.bind fun task =>
          (s.resume task outcome fetchedNow unknownNow τ).map fun (s', phase) =>
            { s' with clock := τ, tasks := s.tasks.set i { task with phase } }
      else none

/-! ### When fetches start -/

/-- The time at which the step starts a fetch of `get_key`, by the client's own checks on the state before it. -/
def JwksState.fetchAt (s : JwksState) : JwksAction → Option ℚ
  | .preload _ => none
  | .getKey kid staleNow unknownNow τ =>
    if s.client.isStale staleNow || s.client.refetches kid unknownNow then some τ else none
  | .resume i outcome fetchedNow unknownNow τ =>
    match s.tasks[i]?, s.client.refreshed fetchedNow outcome with
    | some ⟨some kid, .staleFetch _⟩, .ok client => if client.refetches kid unknownNow then some τ else none
    | _, _ => none

/-- A fetch starts only when none that is younger than the interval is in flight or has failed. -/
def Unhurried (minRefreshInterval : Int) (s : JwksState) (a : JwksAction) : Prop :=
  ∀ τ, s.fetchAt a = some τ → ∀ t ∈ s.failed ++ s.inFlight, t + minRefreshInterval ≤ τ

/-- Any two fetches are at least the interval apart; the later ones come first. -/
def FetchesApart (minRefreshInterval : Int) (starts : List ℚ) : Prop :=
  starts.Pairwise fun (later earlier : ℚ) => earlier + minRefreshInterval ≤ later

/-- Every fetch has failed, is in flight, or ended before the last reading of `_fetched_at`. -/
structure JwksInv (ttl minRefreshInterval : Int) (s : JwksState) : Prop where
  ttl_eq : s.client.ttl = ttl
  min_eq : s.client.minRefreshInterval = minRefreshInterval
  past : ∀ t ∈ s.starts, t ≤ s.clock
  fetched_past : ∀ f, s.client.fetchedAt = some f → f ≤ s.clock
  ended : ∀ t ∈ s.starts, t ∈ s.failed ∨ t ∈ s.inFlight ∨ ∃ f, s.client.fetchedAt = some f ∧ t ≤ f
  failed_starts : ∀ t ∈ s.failed, t ∈ s.starts
  inFlight_starts : ∀ t ∈ s.inFlight, t ∈ s.starts

namespace JwksClient

private theorem fetched_of_isStale {c : JwksClient} {now f : ℚ} (h : c.isStale now = true)
    (hf : c.fetchedAt = some f) : f + c.ttl ≤ now := by
  simp only [isStale, hf, decide_eq_true_eq] at h
  linarith

private theorem fetched_of_refetches {c : JwksClient} {kid : String} {now f : ℚ} (h : c.refetches kid now = true)
    (hf : c.fetchedAt = some f) : f + c.minRefreshInterval ≤ now := by
  simp only [refetches, mayRefreshForUnknownKid, hf, Bool.and_eq_true, decide_eq_true_eq] at h
  linarith [h.2]

/-- A refresh sets the time of the fetch to its own reading. -/
theorem refreshed_ok {c c' : JwksClient} {now : ℚ} {outcome : FetchOutcome} (h : c.refreshed now outcome = .ok c') :
    c'.ttl = c.ttl ∧ c'.minRefreshInterval = c.minRefreshInterval ∧ c'.fetchedAt = some now := by
  unfold refreshed at h
  split at h
  · cases h
  · cases h
  · split at h
    · cases h
    · cases h; exact ⟨rfl, rfl, rfl⟩

end JwksClient

section Step

variable {s : JwksState} {ttl minRefreshInterval : Int}

/-- A task that changes leaves the fetches of the others in flight. -/
private theorem mem_inFlight_set {tasks : List JwksTask} {i : Nat} {task task' : JwksTask}
    (hi : tasks[i]? = some task) {t : ℚ} (ht : t ∈ tasks.filterMap JwksTask.fetch?) :
    t ∈ (tasks.set i task').filterMap JwksTask.fetch? ∨ task.fetch? = some t := by
  obtain ⟨x, hx, hxt⟩ := List.mem_filterMap.1 ht
  obtain ⟨j, hj⟩ := List.mem_iff_getElem?.1 hx
  by_cases hij : i = j
  · subst hij
    rw [hi] at hj
    cases hj
    exact Or.inr hxt
  · refine Or.inl (List.mem_filterMap.2 ⟨x, List.mem_iff_getElem?.2 ⟨j, ?_⟩, hxt⟩)
    rw [List.getElem?_set_ne hij]
    exact hj

private theorem mem_inFlight_of_set {tasks : List JwksTask} {i : Nat} {task' : JwksTask} {t : ℚ}
    (ht : t ∈ (tasks.set i task').filterMap JwksTask.fetch?) :
    t ∈ tasks.filterMap JwksTask.fetch? ∨ task'.fetch? = some t := by
  obtain ⟨x, hx, hxt⟩ := List.mem_filterMap.1 ht
  rcases List.mem_or_eq_of_mem_set hx with hx | rfl
  · exact Or.inl (List.mem_filterMap.2 ⟨x, hx, hxt⟩)
  · exact Or.inr hxt

/-- What a step does, with the fetch of `get_key` it starts. -/
structure JwksMove (s s' : JwksState) (started : Option ℚ) : Prop where
  clock_le : s.clock ≤ s'.clock
  ttl_eq : s'.client.ttl = s.client.ttl
  min_eq : s'.client.minRefreshInterval = s.client.minRefreshInterval
  starts : s'.starts = started.toList ++ s.starts
  started_now : ∀ τ, started = some τ → τ = s'.clock ∧ τ ∈ s'.inFlight
  failed : ∀ t ∈ s'.failed, t ∈ s.failed ∨ t ∈ s.inFlight
  failed_mono : ∀ t ∈ s.failed, t ∈ s'.failed
  inFlight : ∀ t ∈ s'.inFlight, t ∈ s.inFlight ∨ started = some t
  /-- the cache is replaced, or every fetch that was in flight still is or has failed -/
  fetched : (∃ a, s'.client.fetchedAt = some a ∧ s.clock ≤ a ∧ a ≤ s'.clock) ∨
    (s'.client.fetchedAt = s.client.fetchedAt ∧ ∀ t ∈ s.inFlight, t ∈ s'.inFlight ∨ t ∈ s'.failed)

@[simp] theorem JwksTask.fetch?_answer (kid : Option String) (c : JwksClient) (k : String) :
    (JwksTask.mk kid (JwksState.answer c k)).fetch? = none := by
  unfold JwksState.answer
  split <;> rfl

/-- A new call. -/
private theorem jwksMove_append {kid : Option String} {phase : JwksPhase} {τ : ℚ} {started : Option ℚ}
    (hτ : s.clock ≤ τ) (hphase : (JwksTask.mk kid phase).fetch? = started)
    (hstarted : ∀ t, started = some t → t = τ) :
    JwksMove s
      { s with clock := τ, tasks := s.tasks ++ [⟨kid, phase⟩], starts := started.toList ++ s.starts } started where
  clock_le := hτ
  ttl_eq := rfl
  min_eq := rfl
  starts := rfl
  started_now := by
    intro t ht
    refine ⟨hstarted t ht, List.mem_filterMap.2 ⟨⟨kid, phase⟩, by simp, hphase.trans ht⟩⟩
  failed _ ht := Or.inl ht
  failed_mono _ ht := ht
  inFlight := by
    intro t ht
    simp only [JwksState.inFlight, List.filterMap_append, List.mem_append, List.mem_filterMap,
      List.mem_singleton] at ht
    rcases ht with ht | ⟨x, rfl, hx⟩
    · exact Or.inl (List.mem_filterMap.2 ht)
    · exact Or.inr (hphase.symm.trans hx)
  fetched := by
    refine Or.inr ⟨rfl, fun t ht => Or.inl ?_⟩
    simp only [JwksState.inFlight, List.filterMap_append, List.mem_append]
    exact Or.inl ht

/-- A call goes on after a fetch that has ended well. -/
private theorem jwksMove_refreshed {i : Nat} {task : JwksTask} {phase : JwksPhase} {client : JwksClient} {now τ : ℚ}
    {started : Option ℚ} {outcome : FetchOutcome} (hnow : s.clock ≤ now) (hτ : now ≤ τ) (hi : s.tasks[i]? = some task)
    (hc : s.client.refreshed now outcome = .ok client) (hphase : (JwksTask.mk task.kid phase).fetch? = started)
    (hstarted : ∀ t, started = some t → t = τ) :
    JwksMove s { s with client, clock := τ, tasks := s.tasks.set i { task with phase },
                        starts := started.toList ++ s.starts } started where
  clock_le := hnow.trans hτ
  ttl_eq := (JwksClient.refreshed_ok hc).1
  min_eq := (JwksClient.refreshed_ok hc).2.1
  starts := rfl
  started_now := by
    intro t ht
    refine ⟨hstarted t ht, List.mem_filterMap.2 ⟨{ task with phase }, ?_, hphase.trans ht⟩⟩
    exact List.mem_iff_getElem?.2 ⟨i, List.getElem?_set_self (List.getElem?_eq_some_iff.1 hi).1⟩
  failed _ ht := Or.inl ht
  failed_mono _ ht := ht
  inFlight := by
    intro t ht
    rcases mem_inFlight_of_set ht with ht | ht
    · exact Or.inl ht
    · exact Or.inr (hphase.symm.trans ht)
  fetched := Or.inl ⟨now, (JwksClient.refreshed_ok hc).2.2, hnow, hτ⟩

/-- A call ends with its failed fetch. -/
private theorem jwksMove_failed {i : Nat} {task : JwksTask} {e : JwksError} {τ : ℚ} (hτ : s.clock ≤ τ)
    (hi : s.tasks[i]? = some task) :
    JwksMove s { s with clock := τ, tasks := s.tasks.set i { task with phase := .raised e },
                        failed := task.fetch?.toList ++ s.failed } none where
  clock_le := hτ
  ttl_eq := rfl
  min_eq := rfl
  starts := rfl
  started_now _ ht := by cases ht
  failed := by
    intro t ht
    rcases List.mem_append.1 ht with ht | ht
    · right
      exact List.mem_filterMap.2 ⟨task, List.mem_iff_getElem?.2 ⟨i, hi⟩, Option.mem_toList.1 ht⟩
    · exact Or.inl ht
  failed_mono _ ht := List.mem_append_right _ ht
  inFlight := by
    intro t ht
    rcases mem_inFlight_of_set ht with ht | ht
    · exact Or.inl ht
    · cases ht
  fetched := by
    refine Or.inr ⟨rfl, fun t ht => ?_⟩
    rcases mem_inFlight_set hi ht with ht | ht
    · exact Or.inl ht
    · exact Or.inr (List.mem_append_left _ (Option.mem_toList.2 ht))

/-- Every step is such a move. -/
theorem jwksMachine_step {s' : JwksState} {a : JwksAction} (h : jwksMachine.step s a = some s') :
    JwksMove s s' (s.fetchAt a) := by
  cases a with
  | preload τ =>
    simp only [jwksMachine] at h
    split at h
    · rename_i hτ
      cases h
      exact jwksMove_append hτ rfl (fun _ ht => by cases ht)
    · cases h
  | getKey kid staleNow unknownNow τ =>
    simp only [jwksMachine] at h
    split at h
    · rename_i hclock
      have hτ : s.clock ≤ τ := hclock.1.trans (hclock.2.1.trans hclock.2.2)
      cases h
      simp only [JwksState.getKey, JwksState.lookup, JwksState.fetchAt]
      cases hstale : s.client.isStale staleNow with
      | true => exact jwksMove_append hτ rfl (fun t ht => (Option.some.inj ht).symm)
      | false =>
        cases hunknown : s.client.refetches kid unknownNow with
        | true => exact jwksMove_append hτ rfl (fun t ht => (Option.some.inj ht).symm)
        | false => exact jwksMove_append hτ (JwksTask.fetch?_answer ..) (fun t ht => by cases ht)
    · cases h
  | resume i outcome fetchedNow unknownNow τ =>
    simp only [jwksMachine] at h
    split at h
    · rename_i hclock
      obtain ⟨h₁, h₂, h₃⟩ := hclock
      obtain ⟨task, hi, h⟩ := Option.bind_eq_some_iff.1 h
      obtain ⟨⟨s₁, phase⟩, hr, rfl⟩ := Option.map_eq_some_iff.1 h
      obtain ⟨kid, ph⟩ := task
      simp only [JwksState.resume] at hr
      simp only [JwksState.fetchAt, hi]
      cases hc : s.client.refreshed fetchedNow outcome with
      | error e =>
        rw [hc] at hr
        -- the fetch failed: the call ends, and nothing else changes
        cases ph with
        | staleFetch startedAt | unknownFetch startedAt =>
          cases kid with
          | none => cases hr
          | some kid => cases hr; exact jwksMove_failed (h₁.trans (h₂.trans h₃)) hi
        | preloading => cases kid <;> cases hr <;> exact jwksMove_failed (h₁.trans (h₂.trans h₃)) hi
        | preloaded | returned _ | raised _ => cases hr
      | ok client =>
        rw [hc] at hr
        cases ph with
        | staleFetch startedAt =>
          cases kid with
          | none => cases hr
          | some kid =>
            -- the second check follows on the new keys
            simp only [JwksState.lookup] at hr
            cases hunknown : client.refetches kid unknownNow with
            | true =>
              simp only [hunknown, if_true] at hr ⊢
              cases hr
              exact jwksMove_refreshed h₁ (h₂.trans h₃) hi hc rfl (fun t ht => (Option.some.inj ht).symm)
            | false =>
              simp only [hunknown, Bool.false_eq_true, if_false] at hr ⊢
              cases hr
              exact jwksMove_refreshed h₁ (h₂.trans h₃) hi hc (JwksTask.fetch?_answer ..) (fun t ht => by cases ht)
        | unknownFetch startedAt =>
          cases kid with
          | none => cases hr
          | some kid =>
            cases hr
            exact jwksMove_refreshed h₁ (h₂.trans h₃) hi hc (JwksTask.fetch?_answer ..) (fun t ht => by cases ht)
        | preloading =>
          have hnone : ∀ t : ℚ, (none : Option ℚ) = some t → t = τ := fun t ht => by cases ht
          cases kid <;> cases hr <;> exact jwksMove_refreshed h₁ (h₂.trans h₃) hi hc rfl hnone
        | preloaded | returned _ | raised _ => cases hr
    · cases h

private theorem JwksInv.init (ttl minRefreshInterval : Int) (clock : ℚ) :
    JwksInv ttl minRefreshInterval (.init (.new ttl minRefreshInterval) clock) where
  ttl_eq := rfl
  min_eq := rfl
  past _ ht := (List.not_mem_nil ht).elim
  fetched_past _ hf := by cases hf
  ended _ ht := (List.not_mem_nil ht).elim
  failed_starts _ ht := (List.not_mem_nil ht).elim
  inFlight_starts _ ht := (List.not_mem_nil ht).elim

private theorem JwksInv.move {s' : JwksState} {started : Option ℚ} (h : JwksInv ttl minRefreshInterval s)
    (hm : JwksMove s s' started) : JwksInv ttl minRefreshInterval s' := by
  have hmem : ∀ t, t ∈ s'.starts ↔ started = some t ∨ t ∈ s.starts := by
    intro t
    rw [hm.starts, List.mem_append, Option.mem_toList]
  refine ⟨hm.ttl_eq.trans h.ttl_eq, hm.min_eq.trans h.min_eq, fun t ht => ?_, fun f hf => ?_, fun t ht => ?_,
    fun t ht => ?_, fun t ht => ?_⟩
  · rcases (hmem t).1 ht with hs | ht
    · exact (hm.started_now t hs).1.le
    · exact (h.past t ht).trans hm.clock_le
  · rcases hm.fetched with ⟨a, ha, -, hle⟩ | ⟨hsame, -⟩
    · rw [ha] at hf
      cases hf
      exact hle
    · exact (h.fetched_past f (hsame ▸ hf)).trans hm.clock_le
  · rcases (hmem t).1 ht with hs | ht
    · exact Or.inr (Or.inl (hm.started_now t hs).2)
    · rcases hm.fetched with ⟨a, ha, hle, -⟩ | ⟨hsame, hflight⟩
      · exact Or.inr (Or.inr ⟨a, ha, (h.past t ht).trans hle⟩)
      · rcases h.ended t ht with hf | hf | ⟨f, hf, hle⟩
        · exact Or.inl (hm.failed_mono t hf)
        · exact (hflight t hf).elim (fun h => Or.inr (Or.inl h)) Or.inl
        · exact Or.inr (Or.inr ⟨f, hsame.trans hf, hle⟩)
  · refine (hmem t).2 (Or.inr ?_)
    exact (hm.failed t ht).elim (h.failed_starts t) (h.inFlight_starts t)
  · exact (hmem t).2 ((hm.inFlight t ht).symm.imp_right (h.inFlight_starts t))

/-- A fetch starts at least the interval after the last one that ended well. -/
private theorem fetchAt_after_fetched (hmin : minRefreshInterval ≤ ttl) (h : JwksInv ttl minRefreshInterval s)
    {s' : JwksState} {a : JwksAction} (hstep : jwksMachine.step s a = some s') {τ f : ℚ}
    (hτ : s.fetchAt a = some τ) (hf : s.client.fetchedAt = some f) : f + minRefreshInterval ≤ τ := by
  have hmin' : (minRefreshInterval : ℚ) ≤ ttl := by exact_mod_cast hmin
  cases a with
  | preload _ => cases hτ
  | getKey kid staleNow unknownNow τ' =>
    simp only [jwksMachine] at hstep
    split at hstep
    · rename_i hclock
      simp only [JwksState.fetchAt] at hτ
      split at hτ
      · rename_i hc
        cases hτ
        -- the cache was stale, or the `kid` unknown
        rcases Bool.or_eq_true_iff.1 hc with hc | hc
        · have := JwksClient.fetched_of_isStale hc hf
          rw [h.ttl_eq] at this
          linarith [hclock.2.1, hclock.2.2]
        · have := JwksClient.fetched_of_refetches hc hf
          rw [h.min_eq] at this
          linarith [hclock.2.2]
      · cases hτ
    · cases hstep
  | resume i outcome fetchedNow unknownNow τ' =>
    simp only [jwksMachine] at hstep
    split at hstep
    · rename_i hclock
      simp only [JwksState.fetchAt] at hτ
      split at hτ
      · rename_i hc
        split at hτ
        · rename_i hr
          cases hτ
          obtain ⟨-, hm, hfetched⟩ := JwksClient.refreshed_ok hc
          have := JwksClient.fetched_of_refetches hr hfetched
          rw [hm, h.min_eq] at this
          linarith [h.fetched_past f hf, hclock.1, hclock.2.2]
        · cases hτ
      · cases hτ
    · cases hstep

/-- The fetches of a run only grow. -/
private theorem starts_suffix {s' : JwksState} {as : List JwksAction} (h : jwksMachine.run s as = some s') :
    s.starts <:+ s'.starts := by
  refine Machine.run_induction (P := fun t => s.starts <:+ t.starts) (fun t a t' ht hst => ?_) h List.suffix_rfl
  rw [(jwksMachine_step hst).starts]
  exact ht.trans (List.suffix_append _ _)

/-- From a state whose fetches are apart. -/
private theorem apart_iff_unhurried (hmin : minRefreshInterval ≤ ttl) {t : JwksState} {as : List JwksAction}
    (h : JwksInv ttl minRefreshInterval s) (hs : FetchesApart minRefreshInterval s.starts)
    (hrun : jwksMachine.run s as = some t) :
    FetchesApart minRefreshInterval t.starts ↔ jwksMachine.Along (Unhurried minRefreshInterval) s as := by
  induction as generalizing s with
  | nil =>
    cases hrun
    exact ⟨fun _ => trivial, fun _ => hs⟩
  | cons a as ih =>
    obtain ⟨s', hstep, hrest⟩ := Machine.run_cons.1 hrun
    have hmove := jwksMachine_step hstep
    have hinv := h.move hmove
    -- the fetches stay apart exactly if the step is unhurried
    have hiff : FetchesApart minRefreshInterval s'.starts ↔ Unhurried minRefreshInterval s a := by
      rw [hmove.starts]
      cases hτ : s.fetchAt a with
      | none =>
        have hun : Unhurried minRefreshInterval s a := fun τ h => by rw [hτ] at h; cases h
        exact ⟨fun _ => hun, fun _ => hs⟩
      | some τ =>
        have hcons : FetchesApart minRefreshInterval ((some τ).toList ++ s.starts) ↔
            (∀ t ∈ s.starts, t + minRefreshInterval ≤ τ) ∧ FetchesApart minRefreshInterval s.starts :=
          List.pairwise_cons
        rw [hcons]
        constructor
        · rintro ⟨hall, -⟩ τ' hτ' t ht
          rw [hτ] at hτ'
          cases hτ'
          exact hall t ((List.mem_append.1 ht).elim (h.failed_starts t) (h.inFlight_starts t))
        · intro hun
          refine ⟨fun t ht => ?_, hs⟩
          rcases h.ended t ht with hf | hf | ⟨f, hf, hle⟩
          · exact hun τ hτ t (List.mem_append_left _ hf)
          · exact hun τ hτ t (List.mem_append_right _ hf)
          · have := fetchAt_after_fetched hmin h hstep hτ hf
            linarith
    constructor
    · intro ht
      have hs' : FetchesApart minRefreshInterval s'.starts := ht.sublist (starts_suffix hrest).sublist
      refine ⟨hiff.1 hs', fun s'' hs'' => ?_⟩
      rw [hstep] at hs''
      cases hs''
      exact (ih hinv hs' hrest).1 ht
    · rintro ⟨hun, hrest'⟩
      exact (ih hinv (hiff.2 hun) hrest).2 (hrest' s' hstep)

end Step

/-- In every run of a fresh client, the fetches of `get_key` are the interval apart if and only if none starts while
one that is younger than the interval is in flight or has failed. -/
theorem fetches_apart_iff {ttl minRefreshInterval : Int} (hmin : minRefreshInterval ≤ ttl) {clock : ℚ}
    {as : List JwksAction} {s : JwksState}
    (hrun : jwksMachine.run (.init (.new ttl minRefreshInterval) clock) as = some s) :
    FetchesApart minRefreshInterval s.starts ↔
      jwksMachine.Along (Unhurried minRefreshInterval) (.init (.new ttl minRefreshInterval) clock) as :=
  apart_iff_unhurried hmin (.init ttl minRefreshInterval clock) List.Pairwise.nil hrun

/-- A fetch that times out, with the default intervals. -/
def timedOut : List JwksAction :=
  [.getKey "key-a" 1000 1000 1000, .resume 0 (.httpError "ConnectTimeout") 1005 1005 1005]

/-- After the failure the next call fetches when the interval is over, and of two calls for a key that this fetch has
not brought only the later one. -/
def retried : List JwksAction :=
  timedOut ++ [.getKey "key-a" 1031 1031 1031, .resume 1 (.payload (.obj [("keys", .arr [])])) 1032 1032 1032,
    .getKey "key-b" 1040 1040 1040, .getKey "key-b" 1062 1062 1062]

theorem fetches_apart_iff_retried : ∃ s, jwksMachine.run (.init (.new 3600 30) 1000) retried = some s ∧
    s.starts = [1062, 1031, 1000] ∧ s.failed = [1000] ∧ FetchesApart 30 s.starts ∧
    jwksMachine.Along (Unhurried 30) (.init (.new 3600 30) 1000) retried := by
  have hrun : (jwksMachine.run (.init (.new 3600 30) 1000) retried).map (fun s => (s.starts, s.failed)) =
      some ([1062, 1031, 1000], [1000]) := by decide +kernel
  obtain ⟨s, hs, hlists⟩ := Option.map_eq_some_iff.1 hrun
  obtain ⟨hstarts, hfailed⟩ := Prod.mk.inj hlists
  have hapart : FetchesApart 30 s.starts := by
    rw [hstarts]
    norm_num [FetchesApart]
  exact ⟨s, hs, hstarts, hfailed, hapart, (fetches_apart_iff (by decide) hs).1 hapart⟩

/-- After a fetch that has failed, the next call fetches again at once. -/
theorem failed_fetch_refetches : ¬ ∀ ttl minRefreshInterval : Int, 1 ≤ minRefreshInterval → minRefreshInterval ≤ ttl →
    ∀ clock as s, jwksMachine.run (.init (.new ttl minRefreshInterval) clock) as = some s →
      FetchesApart minRefreshInterval s.starts := by
  intro hclaim
  have hrun : (jwksMachine.run (.init (.new 3600 30) 1000)
      (timedOut ++ [.getKey "key-b" 1006 1006 1006])).map JwksState.starts = some [1006, 1000] := by decide
  obtain ⟨s, hs, hstarts⟩ := Option.map_eq_some_iff.1 hrun
  have hapart := hclaim 3600 30 (by decide) (by decide) 1000 _ s hs
  rw [hstarts] at hapart
  have := (List.pairwise_cons.1 hapart).1 1000 (List.mem_singleton_self _)
  norm_num at this

end CleanBackend
