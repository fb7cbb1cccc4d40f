import CleanBackend.Lib.Workers

/-!
# Requests on the connection pool

How `DBTransactionMiddleware`, `AsyncpgTransactionManager` and the repositories use the one asyncpg pool.  The
middleware acquires a connection and holds it until the response is built; every repository call (`_call`, which is
`pool.fetchval`) acquires a second connection of the same pool and releases it.  `pool.acquire()` waits while no
connection is free.

The pool can be exhausted by requests that hold a connection and wait for another one.  `deadlockFree_iff` says
exactly when: the pool must have more connections than there are requests that make a repository call.
-/

namespace CleanBackend

/-- A request: whether its verb is in `MUTATING_METHODS`, and how many repository calls its dependencies and handler
make. -/
structure PoolRequest where
  mutating : Bool
  calls : Nat
  deriving DecidableEq, Repr

/-- Where a request stands in `DBTransactionMiddleware.dispatch`. -/
inductive PoolPhase where
  /-- `dispatch` is in `pool.acquire()` -/
  | arrived
  /-- the connection is held, `txn.start()` is next -/
  | starting
  /-- inside `call_next`, with this many repository calls to go -/
  | handling (calls : Nat)
  /-- inside `_call`, with the second connection -/
  | calling (calls : Nat)
  /-- the response is built, `txn.commit()` or `txn.rollback()` is next -/
  | ending
  | finished
  deriving DecidableEq, Repr

/-- One step of a request: the free connections and its phase after it.  `none` where it waits in `pool.acquire()`,
and when it is finished. -/
def PoolRequest.advance (r : PoolRequest) : Nat → PoolPhase → Option (Nat × PoolPhase)
  | 0, .arrived => none
  | free + 1, .arrived => some (free, if r.mutating then .starting else .handling r.calls)
  | free, .starting => some (free, .handling r.calls)
  | 0, .handling (_ + 1) => none
  | free + 1, .handling (calls + 1) => some (free, .calling calls)
  | free, .calling calls => some (free + 1, .handling calls)
  | free, .handling 0 => if r.mutating then some (free, .ending) else some (free + 1, .finished)
  | free, .ending => some (free + 1, .finished)
  | _, .finished => none

/-- The free connections, and the requests with their phases. -/
abbrev PoolState := Workers PoolRequest PoolPhase

/-- The interleaving of the requests: an action is the position of the request that moves. -/
def pool : Machine PoolState Nat := workersMachine PoolRequest.advance

/-- `size` connections, and every request has just arrived. -/
def PoolState.initial (size : Nat) (rs : List PoolRequest) : PoolState :=
  ⟨size, rs.map fun r => (r, .arrived)⟩

def PoolState.Unfinished (s : PoolState) : Prop := ∃ x ∈ s.workers, x.2 ≠ .finished

/-- In every reachable state with an unfinished request, some request can move. -/
def DeadlockFree (size : Nat) (rs : List PoolRequest) : Prop :=
  ∀ s, pool.Reachable (.initial size rs) s → s.Unfinished → ∃ i s', pool.step s i = some s'

/-! ### One step -/

/-- The connections a request holds. -/
def PoolPhase.held : PoolPhase → Nat
  | .arrived => 0
  | .starting => 1
  | .handling _ => 1
  | .calling _ => 2
  | .ending => 1
  | .finished => 0

/-- A request that holds a connection and waits for another one as soon as none is free. -/
def PoolPhase.wantsSecond : PoolPhase → Bool
  | .handling (_ + 1) => true
  | _ => false

/-- The calls to go never exceed the calls of the request. -/
def PoolPhase.Within (r : PoolRequest) : PoolPhase → Prop
  | .handling calls => calls ≤ r.calls
  | .calling calls => calls < r.calls
  | _ => True

private theorem advance_held {r : PoolRequest} {p p' : PoolPhase} {free free' : Nat}
    (h : r.advance free p = some (free', p')) : free' + p'.held = free + p.held := by
  unfold PoolRequest.advance at h
  split at h <;> try cases h
  · by_cases hm : r.mutating <;> simp [hm, PoolPhase.held]
  · rfl
  · simp [PoolPhase.held]
  · simp [PoolPhase.held]
  · split at h <;> cases h <;> simp [PoolPhase.held]
  · simp [PoolPhase.held]

private theorem advance_within {r : PoolRequest} {p p' : PoolPhase} {free free' : Nat}
    (h : r.advance free p = some (free', p')) (hp : p.Within r) : p'.Within r := by
  unfold PoolRequest.advance at h
  split at h <;> try cases h
  · by_cases hm : r.mutating <;> simp [hm, PoolPhase.Within]
  · exact Nat.le_refl _
  · exact hp
  · exact Nat.le_of_lt hp
  · split at h <;> cases h <;> trivial
  · trivial

/-- Only a wait for a connection, or the end, stops a request. -/
private theorem advance_none {r : PoolRequest} {p : PoolPhase} {free : Nat} (h : r.advance free p = none) :
    p = .finished ∨ free = 0 ∧ (p = .arrived ∨ p.wantsSecond = true) := by
  unfold PoolRequest.advance at h
  split at h <;> try split at h
  all_goals first
    | exact Or.inl rfl
    | exact Or.inr ⟨rfl, Or.inl rfl⟩
    | exact Or.inr ⟨rfl, Or.inr rfl⟩
    | cases h

/-- A request that wants a second connection makes a call. -/
private theorem calls_of_wantsSecond {r : PoolRequest} {p : PoolPhase} (hp : p.Within r) (h : p.wantsSecond = true) :
    decide (0 < r.calls) = true := by
  cases p with
  | handling calls =>
    cases calls with
    | zero => exact nomatch h
    | succ n => exact decide_eq_true (Nat.lt_of_lt_of_le n.succ_pos hp)
  | _ => exact nomatch h

private theorem held_of_wantsSecond {p : PoolPhase} (h : p.wantsSecond = true) : p.held = 1 := by
  cases p with
  | handling calls => rfl
  | _ => exact nomatch h

/-- Without a free connection, who wants one waits. -/
private theorem advance_blocked {r : PoolRequest} {p : PoolPhase}
    (h : p = .arrived ∨ p.wantsSecond = true) : r.advance 0 p = none := by
  rcases h with rfl | h
  · rfl
  · cases p with
    | handling calls =>
      cases calls with
      | zero => exact nomatch h
      | succ n => rfl
    | _ => exact nomatch h

/-- A request that makes a repository call takes a free connection and then wants a second one. -/
private theorem take_connection (r : PoolRequest) (n : Nat) (l₁ l₂ : List (PoolRequest × PoolPhase)) :
    pool.Reachable ⟨n + 1, l₁ ++ (r, .arrived) :: l₂⟩ ⟨n, l₁ ++ (r, .handling r.calls) :: l₂⟩ := by
  cases hm : r.mutating with
  | true =>
    have hacquire : r.advance (n + 1) .arrived = some (n, .starting) := by simp [PoolRequest.advance, hm]
    have hstart : r.advance n .starting = some (n, .handling r.calls) := by simp [PoolRequest.advance]
    exact .head (Workers.step_at rfl hacquire) (.head (Workers.step_at rfl hstart) (.refl _))
  | false =>
    have hacquire : r.advance (n + 1) .arrived = some (n, .handling r.calls) := by simp [PoolRequest.advance, hm]
    exact .head (Workers.step_at rfl hacquire) (.refl _)

/-- The requests use the pool as workers do. -/
private theorem poolRules :
    PoolRules PoolRequest.advance .arrived PoolPhase.held (· == .finished) PoolPhase.wantsSecond
    (fun r => decide (0 < r.calls)) (fun r p => p.Within r) where
  held_arrived := rfl
  held_done h := by rw [eq_of_beq h]; rfl
  held_wants := held_of_wantsSecond
  fits_arrived _ := trivial
  conserved _ := advance_held
  fits hp h := advance_within h hp
  greedy_of_wants := calls_of_wantsSecond
  waits _ h := (advance_none h).imp_left beq_iff_eq.2
  blocked := advance_blocked
  takes {r} h := by
    refine ⟨.handling r.calls, ?_, PoolPhase.noConfusion, take_connection r⟩
    obtain ⟨k, hk⟩ := Nat.exists_eq_add_one_of_ne_zero (Nat.ne_of_gt (of_decide_eq_true h))
    rw [hk]
    rfl

/-! ### The bound on the pool -/

/-- A pool of `size` connections is free of deadlock exactly when fewer than `size` of the requests make a repository
call. -/
theorem deadlockFree_iff {size : Nat} {rs : List PoolRequest} (hsize : 1 ≤ size) :
    DeadlockFree size rs ↔ rs.countP (fun r => decide (0 < r.calls)) < size := by
  have hunfinished : ∀ s : PoolState, s.Unfinished ↔ ∃ x ∈ s.workers, (x.2 == PoolPhase.finished) = false := fun s =>
    exists_congr fun x => and_congr_right fun _ => beq_eq_false_iff_ne.symm
  rw [← poolRules.deadlockFree_iff_greedy hsize]
  exact forall_congr' fun s => forall_congr' fun _ => imp_congr_left (hunfinished s)

/-- Five concurrent requests on three connections: two of them call the repositories. -/
theorem deadlockFree_five_requests : DeadlockFree 3 [⟨true, 4⟩, ⟨false, 0⟩, ⟨false, 2⟩, ⟨true, 0⟩, ⟨false, 0⟩] :=
  (deadlockFree_iff (by decide)).2 (by decide)

/-- `GET /auth/me`: its only repository calls are the `get` and the `touch` of `get_current_principal`. -/
def meRequest : PoolRequest := ⟨false, 2⟩

/-- Ten concurrent `GET /auth/me` requests lock up a pool of the default size. -/
theorem deadlock_default_pool : ¬ DeadlockFree 10 (List.replicate 10 meRequest) := by
  intro h
  obtain ⟨i, s', hi⟩ := h ⟨0, List.replicate 10 (meRequest, .handling 2)⟩ ⟨List.range 10, rfl⟩
    ⟨(meRequest, .handling 2), List.mem_replicate.2 ⟨by decide, rfl⟩, by decide⟩
  simp only [pool, workersMachine, List.getElem?_replicate] at hi
  by_cases hlt : i < 10
  · simp [hlt, PoolRequest.advance] at hi
  · simp [hlt] at hi

end CleanBackend
