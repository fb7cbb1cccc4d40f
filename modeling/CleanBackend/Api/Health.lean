import CleanBackend.Bootstrap.AppWiring
import CleanBackend.Core.DbTransaction
import CleanBackend.Lib.Workers

/-!
# The health probes

`api/v1/health/routes.py` behind `DBTransactionMiddleware`.  While the app serves, readiness fails exactly when an
enabled dependency does not answer its ping, since the wiring has every resource that the settings ask for.  The
probes are GET requests like any other: with the database enabled each of them, the liveness probe included, first
takes a connection of the pool and holds it until it has answered, and `_ping_database` takes a second one of the same
pool.  So probes wait for each other, and `probes_report` says exactly when all of them are answered and with what.
-/

namespace CleanBackend

inductive ComponentState where
  | ok
  | disabled
  | unknown
  | error
  deriving DecidableEq, Repr

def ComponentState.value : ComponentState → String
  | ok => "ok"
  | disabled => "disabled"
  | unknown => "unknown"
  | error => "error"

inductive ReadinessStatus where
  | ok
  | degraded
  | error
  deriving DecidableEq, Repr

def ReadinessStatus.value : ReadinessStatus → String
  | ok => "ok"
  | degraded => "degraded"
  | error => "error"

structure ReadinessData where
  status : ReadinessStatus
  components : PyDict String ComponentState
  deriving DecidableEq, Repr

/-- Whether `SELECT 1` and `PING` raise. -/
structure PingFates where
  database : Bool
  redis : Bool

/-- `_ping_database` and `_ping_redis` -/
def ping (client : Option Nat) (raises : Bool) : ComponentState :=
  match client with
  | none => .error
  | some _ => if raises then .error else .ok

def ReadinessData.dump (data : ReadinessData) : List (String × Json) :=
  [("status", .str data.status.value), ("components", .obj (data.components.map fun c => (c.1, .str c.2.value)))]

section Probes

variable (settings : AppSettings) (state : AppWiring) (fates : PingFates) (requestId : String)

/-- `_readiness` -/
def readiness : ReadinessData :=
  let components : PyDict String ComponentState := [
    ("database", if settings.startupConnectDatabase then ping state.dbPool fates.database else .disabled),
    ("redis", if settings.startupConnectRedis then ping state.redisClient fates.redis else .disabled),
    ("casbin", if settings.startupLoadCasbin then if state.authorizationService then .ok else .error else .disabled),
    ("jwks", if settings.supabaseJwksUrl.isSome then .unknown else .disabled)]
  let states := components.map Prod.snd
  { status :=
      if .error ∈ states then .error
      else if .ok ∈ states ∧ .unknown ∉ states then .ok
      else .degraded
    components }

def live : HttpResponse := jsonResponse 200 (apiSuccess requestId (.obj [("status", .str "ok")]))

def ready : HttpResponse :=
  let readiness := readiness settings state fates
  jsonResponse (if readiness.status = .error then 503 else 200) (apiSuccess requestId (.obj readiness.dump))

def deep : HttpResponse :=
  let readiness := readiness settings state fates
  jsonResponse (if readiness.status = .error then 503 else 200)
    (apiSuccess requestId (.obj (readiness.dump ++ [("checks", .obj [])])))

end Probes

/-! ### Probes on the pool -/

inductive ProbeKind where
  | live
  | ready
  | deep
  deriving DecidableEq, Repr

/-- What fails around a probe.  An `acquire` waits for a free place of the pool, and fails if the place has no
connection and none can be made. -/
structure ProbeFaults where
  acquire : Bool
  /-- the connection of the middleware cannot be given back -/
  release : Bool
  /-- the `acquire` of `pool.fetchval` -/
  pingAcquire : Bool
  /-- `SELECT 1`, or giving its connection back -/
  select : Bool
  redis : Bool
  deriving DecidableEq, Repr

structure Probe where
  kind : ProbeKind
  faults : ProbeFaults
  deriving DecidableEq, Repr

/-- Where a probe stands in `DBTransactionMiddleware.dispatch`. -/
inductive ProbePhase where
  /-- `manager.connection()` is next, if there is a manager -/
  | arrived
  /-- inside `_ping_database`, before the connection of `fetchval` -/
  | pinging
  /-- inside `_ping_database`, with the connection of `fetchval` -/
  | selecting
  /-- the rest of the handler is next; whether `SELECT 1` has raised -/
  | pinged (raised : Bool)
  | answered (reply : Reply)
  deriving DecidableEq, Repr

namespace Probe

variable (settings : AppSettings) (state : AppWiring) (requestId : String) (p : Probe)

/-- The response of the handler, once the database is pinged. -/
def response (raised : Bool) : HttpResponse :=
  match p.kind with
  | .live => CleanBackend.live requestId
  | .ready => CleanBackend.ready settings state ⟨raised, p.faults.redis⟩ requestId
  | .deep => CleanBackend.deep settings state ⟨raised, p.faults.redis⟩ requestId

/-- `call_next`, as far as `_ping_database`. -/
def callNext : ProbePhase :=
  if p.kind ≠ .live ∧ settings.startupConnectDatabase ∧ state.dbPool.isSome then .pinging else .pinged false

/-- One step of a probe: the free connections and its phase after it.  `none` where it waits in `pool.acquire()`, and
when it is answered. -/
def advance (free : Nat) : ProbePhase → Option (Nat × ProbePhase)
  | .arrived =>
    if state.transactionManager.isNone then some (free, p.callNext settings state)
    else if free = 0 then none
    else if p.faults.acquire then some (free, .answered .exception)
    else some (free - 1, p.callNext settings state)
  | .pinging =>
    if free = 0 then none
    else if p.faults.pingAcquire then some (free, .pinged true)
    else some (free - 1, .selecting)
  | .selecting => some (free + 1, .pinged p.faults.select)
  | .pinged raised =>
    let reply := .response (p.response settings state requestId raised).status
    if state.transactionManager.isNone then some (free, .answered reply)
    else some (free + 1, .answered (if p.faults.release then .exception else reply))
  | .answered _ => none

/-- What a probe is to report. -/
def report : Reply :=
  if settings.startupConnectDatabase && (p.faults.acquire || p.faults.release) then .exception
  else
    let failing := settings.startupConnectDatabase && (p.faults.pingAcquire || p.faults.select) ||
      settings.startupConnectRedis && p.faults.redis
    .response (if p.kind ≠ .live ∧ failing then 503 else 200)

/-- A probe that pings over a second connection. -/
def pings : Bool := p.kind ≠ .live && !p.faults.acquire

end Probe

def ProbePhase.isAnswered : ProbePhase → Bool
  | answered _ => true
  | _ => false

/-- The interleaving of the probes: an action is the position of the probe that moves. -/
def probes (settings : AppSettings) (state : AppWiring) (requestId : String) :
    Machine (Workers Probe ProbePhase) Nat :=
  workersMachine fun p => p.advance settings state requestId

section Serving

variable {settings : AppSettings} {state : AppWiring} {n : Nat}

/-- A component of a serving app fails only at its ping. -/
private theorem ping_of_serves {client : Option Nat} {enabled : Bool} (h : client = if enabled then some n else none)
    (raises : Bool) :
    (if enabled then ping client raises else .disabled) =
      if enabled && raises then ComponentState.error else if enabled then .ok else .disabled := by
  cases enabled with
  | false => rfl
  | true =>
    rw [h]
    cases raises <;> rfl

private theorem readiness_of_serves (h : state.Serves settings n) (fates : PingFates) :
    (readiness settings state fates).status = .error ↔
      ((settings.startupConnectDatabase && fates.database) ||
        (settings.startupConnectRedis && fates.redis)) = true := by
  have hcasbin : (if settings.startupLoadCasbin then
      if state.authorizationService then ComponentState.ok else .error else .disabled) =
        if settings.startupLoadCasbin then .ok else .disabled := by
    cases hload : settings.startupLoadCasbin with
    | false => rfl
    | true => rw [if_pos rfl, if_pos rfl, h.authorizationService hload, if_pos rfl]
  unfold readiness
  rw [ping_of_serves h.dbPool, ping_of_serves h.redisClient, hcasbin]
  cases settings.startupConnectDatabase <;> cases settings.startupConnectRedis <;>
    cases settings.startupLoadCasbin <;>
    cases settings.supabaseJwksUrl.isSome <;> cases fates.database <;> cases fates.redis <;> decide

private theorem response_of_serves (h : state.Serves settings n) (p : Probe) (requestId : String) (raised : Bool) :
    (p.response settings state requestId raised).status =
      if p.kind ≠ .live ∧ ((settings.startupConnectDatabase && raised) ||
        (settings.startupConnectRedis && p.faults.redis)) = true then 503 else 200 := by
  have hready := readiness_of_serves h ⟨raised, p.faults.redis⟩
  obtain ⟨kind, faults⟩ := p
  cases kind with
  | live => rfl
  | ready | deep => exact if_congr (hready.trans (and_iff_right ProbeKind.noConfusion).symm) rfl rfl

end Serving

/-! ### What a probe has met in each phase -/

namespace Probe

variable {settings : AppSettings} {state : AppWiring} {n : Nat} {p : Probe} {phase phase' : ProbePhase}
  {free free' : Nat}

/-- What is known of a probe in a phase. -/
def Reaches (settings : AppSettings) (p : Probe) : ProbePhase → Prop
  | .arrived => True
  | .pinging => settings.startupConnectDatabase = true ∧ p.pings = true
  | .selecting => settings.startupConnectDatabase = true ∧ p.pings = true ∧ p.faults.pingAcquire = false
  | .pinged raised => (settings.startupConnectDatabase = true → p.faults.acquire = false) ∧
      (p.kind ≠ .live → (settings.startupConnectDatabase && raised) =
        (settings.startupConnectDatabase && (p.faults.pingAcquire || p.faults.select)))
  | .answered reply => reply = p.report settings

private theorem connected_of_serves (h : state.Serves settings n) :
    state.transactionManager.isSome = settings.startupConnectDatabase ∧
      state.transactionManager.isNone = !settings.startupConnectDatabase ∧
      state.dbPool.isSome = settings.startupConnectDatabase := by
  rw [h.transactionManager, h.dbPool]
  cases settings.startupConnectDatabase <;> exact ⟨rfl, rfl, rfl⟩

private theorem acquire_of_pings (h : p.pings = true) : p.faults.acquire = false := by
  rw [pings, Bool.and_eq_true, Bool.not_eq_true'] at h
  exact h.2

private theorem reaches_callNext (h : state.Serves settings n)
    (hacquire : settings.startupConnectDatabase = true → p.faults.acquire = false) :
    p.Reaches settings (p.callNext settings state) := by
  rw [callNext, (connected_of_serves h).2.2]
  split
  · rename_i hping
    refine ⟨hping.2.1, ?_⟩
    rw [pings, hacquire hping.2.1, decide_eq_true hping.1]
    rfl
  · rename_i hno
    refine ⟨hacquire, fun hkind => ?_⟩
    have hdb : settings.startupConnectDatabase = false := Bool.eq_false_iff.2 fun hdb => hno ⟨hkind, hdb, hdb⟩
    rw [hdb, Bool.false_and, Bool.false_and]

/-- A probe is answered with its report. -/
private theorem report_of_pinged (h : state.Serves settings n) {raised : Bool}
    (hp : p.Reaches settings (.pinged raised)) (requestId : String) :
    p.report settings = if settings.startupConnectDatabase && p.faults.release then .exception
      else .response (p.response settings state requestId raised).status := by
  obtain ⟨hacquire, hraised⟩ := hp
  have hexception : (settings.startupConnectDatabase && (p.faults.acquire || p.faults.release)) =
      (settings.startupConnectDatabase && p.faults.release) := by
    cases hdb : settings.startupConnectDatabase with
    | false => rfl
    | true => rw [hacquire hdb, Bool.false_or]
  rw [report, hexception, response_of_serves h]
  refine if_congr Iff.rfl rfl (congrArg Reply.response (if_congr (and_congr_right fun hkind => ?_) rfl rfl))
  rw [hraised hkind]

/-- A step of a probe, while the app serves. -/
inductive Step (settings : AppSettings) (state : AppWiring) (requestId : String) (p : Probe) :
    Nat → ProbePhase → Nat → ProbePhase → Prop where
  | enters {free : Nat} (hdb : settings.startupConnectDatabase = false) :
      Step settings state requestId p free .arrived free (p.callNext settings state)
  | refused {free : Nat} (hdb : settings.startupConnectDatabase = true) (h : p.faults.acquire = true) :
      Step settings state requestId p free .arrived free (.answered .exception)
  | connects {free : Nat} (hdb : settings.startupConnectDatabase = true) (h : p.faults.acquire = false) :
      Step settings state requestId p (free + 1) .arrived free (p.callNext settings state)
  | pingRefused {free : Nat} (h : p.faults.pingAcquire = true) :
      Step settings state requestId p free .pinging free (.pinged true)
  | pingConnects {free : Nat} (h : p.faults.pingAcquire = false) :
      Step settings state requestId p (free + 1) .pinging free .selecting
  | selects {free : Nat} : Step settings state requestId p free .selecting (free + 1) (.pinged p.faults.select)
  | answers {free : Nat} {raised : Bool} (hdb : settings.startupConnectDatabase = false) :
      Step settings state requestId p free (.pinged raised) free
        (.answered (.response (p.response settings state requestId raised).status))
  | releases {free : Nat} {raised : Bool} (hdb : settings.startupConnectDatabase = true) :
      Step settings state requestId p free (.pinged raised) (free + 1)
        (.answered (if p.faults.release then .exception
          else .response (p.response settings state requestId raised).status))

private theorem step_of_advance (h : state.Serves settings n) {requestId : String}
    (ha : p.advance settings state requestId free phase = some (free', phase')) :
    Step settings state requestId p free phase free' phase' := by
  have hnone := (connected_of_serves h).2.1
  cases phase with
  | arrived =>
    rw [advance, hnone] at ha
    cases hdb : settings.startupConnectDatabase with
    | false =>
      rw [if_pos (by rw [hdb]; rfl)] at ha
      cases ha
      exact .enters hdb
    | true =>
      rw [if_neg (by rw [hdb]; decide)] at ha
      cases free with
      | zero => cases ha
      | succ free =>
        rw [if_neg (Nat.succ_ne_zero free)] at ha
        split at ha
        · rename_i hacquire
          cases ha
          exact .refused hdb hacquire
        · rename_i hacquire
          cases ha
          exact .connects hdb (Bool.eq_false_iff.2 hacquire)
  | pinging =>
    rw [advance] at ha
    cases free with
    | zero => cases ha
    | succ free =>
      rw [if_neg (Nat.succ_ne_zero free)] at ha
      split at ha
      · rename_i hfault
        cases ha
        exact .pingRefused hfault
      · rename_i hfault
        cases ha
        exact .pingConnects (Bool.eq_false_iff.2 hfault)
  | selecting =>
    rw [advance] at ha
    cases ha
    exact .selects
  | pinged raised =>
    rw [advance, hnone] at ha
    cases hdb : settings.startupConnectDatabase with
    | false =>
      rw [hdb] at ha
      cases ha
      exact .answers hdb
    | true =>
      rw [hdb] at ha
      cases ha
      exact .releases hdb
  | answered reply =>
    rw [advance] at ha
    cases ha

private theorem reaches_step (h : state.Serves settings n) {requestId : String} (hp : p.Reaches settings phase)
    (hs : Step settings state requestId p free phase free' phase') : p.Reaches settings phase' := by
  -- the faults that a step meets are those the next phase records
  cases hs with
  | enters hdb => exact reaches_callNext h fun hdb' => absurd (hdb.symm.trans hdb') Bool.false_ne_true
  | refused hdb hacquire =>
    show Reply.exception = p.report settings
    rw [report, hdb, hacquire]
    rfl
  | connects hdb hacquire => exact reaches_callNext h fun _ => hacquire
  | pingRefused hfault => exact ⟨fun _ => acquire_of_pings hp.2, fun _ => by rw [hfault, Bool.true_or]⟩
  | pingConnects hfault => exact ⟨hp.1, hp.2, hfault⟩
  | selects =>
    obtain ⟨-, hpings, hfault⟩ := hp
    exact ⟨fun _ => acquire_of_pings hpings, fun _ => by rw [hfault, Bool.false_or]⟩
  | answers hdb | releases hdb =>
    have hreport := report_of_pinged h hp requestId
    rw [hdb] at hreport
    exact hreport.symm

/-! ### The probes as workers -/

/-- The connections a probe holds, with the database enabled. -/
def held : ProbePhase → Nat
  | .arrived => 0
  | .pinging => 1
  | .selecting => 2
  | .pinged _ => 1
  | .answered _ => 0

/-- The steps a probe has still to make, at most. -/
def rank : ProbePhase → Nat
  | .arrived => 4
  | .pinging => 3
  | .selecting => 2
  | .pinged _ => 1
  | .answered _ => 0

/-- With the database, a probe in its handler holds the connection of the middleware. -/
private theorem held_callNext : held (p.callNext settings state) = 1 := by
  rw [callNext]
  split <;> rfl

private theorem rank_callNext : rank (p.callNext settings state) < rank .arrived := by
  rw [callNext]
  split <;> decide

private theorem rank_step {requestId : String} (hs : Step settings state requestId p free phase free' phase') :
    rank phase' < rank phase := by
  cases hs with
  | enters | connects => exact rank_callNext
  | refused => exact Nat.succ_pos 3
  | pingRefused => exact Nat.lt_of_sub_eq_succ rfl
  | pingConnects => exact Nat.lt_succ_self 2
  | selects => exact Nat.lt_succ_self 1
  | answers | releases => exact Nat.succ_pos 0

private theorem held_step (hdb : settings.startupConnectDatabase = true) {requestId : String}
    (hs : Step settings state requestId p free phase free' phase') : free' + held phase' = free + held phase := by
  cases hs with
  | enters hno | answers hno => exact absurd (hno.symm.trans hdb) Bool.false_ne_true
  | connects => rw [held_callNext, held, Nat.add_zero]
  | refused | pingRefused | pingConnects | selects | releases => rfl

/-- Only a wait for a connection, or the answer, stops a probe, and without the database only the answer. -/
private theorem advance_none (h : state.Serves settings n) {requestId : String} (hp : p.Reaches settings phase)
    (ha : p.advance settings state requestId free phase = none) :
    phase.isAnswered = true ∨
      settings.startupConnectDatabase = true ∧ free = 0 ∧ (phase = .arrived ∨ (phase == .pinging) = true) := by
  cases phase with
  | arrived =>
    rw [advance, (connected_of_serves h).2.1] at ha
    split at ha
    · cases ha
    rename_i hdb
    rw [Bool.not_eq_true', Bool.not_eq_false] at hdb
    split at ha
    · rename_i hfree
      exact Or.inr ⟨hdb, hfree, Or.inl rfl⟩
    · split at ha <;> cases ha
  | pinging =>
    rw [advance] at ha
    split at ha
    · rename_i hfree
      exact Or.inr ⟨hp.1, hfree, Or.inr rfl⟩
    · split at ha <;> cases ha
  | selecting =>
    rw [advance] at ha
    cases ha
  | pinged raised =>
    rw [advance] at ha
    split at ha <;> cases ha
  | answered reply => exact Or.inl rfl

/-- With the database, the probes use its pool as workers do. -/
private theorem poolRules (h : state.Serves settings n) (hdb : settings.startupConnectDatabase = true)
    (requestId : String) :
    PoolRules (fun p => p.advance settings state requestId) .arrived held ProbePhase.isAnswered (· == .pinging) pings
      (Reaches settings) where
  held_arrived := rfl
  held_done {phase} hdone := by
    cases phase with
    | answered reply => rfl
    | _ => cases hdone
  held_wants hwants := by
    rw [eq_of_beq hwants]
    rfl
  fits_arrived _ := trivial
  conserved _ ha := held_step hdb (step_of_advance h ha)
  fits hp ha := reaches_step h hp (step_of_advance h ha)
  greedy_of_wants hp hwants := by
    rw [eq_of_beq hwants] at hp
    exact hp.2
  waits hp ha := (advance_none h hp ha).imp_right And.right
  blocked {p phase} hphase := by
    have hnone : ¬ state.transactionManager.isNone = true := by
      rw [(connected_of_serves h).2.1, hdb]
      decide
    rcases hphase with rfl | hphase
    · rw [advance, if_neg hnone, if_pos rfl]
    · rw [eq_of_beq hphase, advance, if_pos rfl]
  takes {p} hpings := by
    obtain ⟨hmanager, hnone, hpool⟩ := connected_of_serves h
    refine ⟨.pinging, rfl, ProbePhase.noConfusion, fun free l₁ l₂ => .head (Workers.step_at rfl ?_) (.refl _)⟩
    have hkind : p.kind ≠ .live := by
      rw [pings, Bool.and_eq_true, decide_eq_true_eq] at hpings
      exact hpings.1
    rw [advance, hnone, hdb, if_neg (by decide), if_neg (Nat.succ_ne_zero free), acquire_of_pings hpings,
      if_neg Bool.false_ne_true, callNext, hpool, if_pos ⟨hkind, hdb, hdb⟩]
    rfl

private theorem reaches_of_reachable (h : state.Serves settings n) {requestId : String} {size : Nat} {ps : List Probe}
    {s : Workers Probe ProbePhase} (hs : (probes settings state requestId).Reachable (.initial size ps .arrived) s) :
    ∀ x ∈ s.workers, x.1.Reaches settings x.2 := by
  refine Workers.forall_of_reachable (fun p _ _ _ _ hp ha => reaches_step h hp (step_of_advance h ha)) hs ?_
  intro x hx
  obtain ⟨p, -, rfl⟩ := List.mem_map.1 hx
  trivial

private theorem deadlockFree_iff_pings (h : state.Serves settings n) (requestId : String) {size : Nat}
    (hsize : 1 ≤ size) (ps : List Probe) :
    Workers.DeadlockFree (fun p => p.advance settings state requestId) ProbePhase.isAnswered
        (.initial size ps .arrived) ↔
      (settings.startupConnectDatabase = true → ps.countP pings < size) := by
  by_cases hdb : settings.startupConnectDatabase = true
  · rw [(poolRules h hdb requestId).deadlockFree_iff_greedy hsize, imp_iff_right hdb]
  · refine iff_of_true ?_ fun hdb' => absurd hdb' hdb
    intro t ht ⟨⟨p, phase⟩, hx, hdone⟩
    have hp : p.Reaches settings phase := reaches_of_reachable h ht _ hx
    obtain ⟨l₁, l₂, he⟩ := List.append_of_mem hx
    cases ha : p.advance settings state requestId t.free phase with
    | some next => exact ⟨_, _, Workers.step_at he ha⟩
    | none =>
      rcases advance_none h hp ha with hanswered | ⟨hdb', -⟩
      · rw [hdone] at hanswered
        cases hanswered
      · exact absurd hdb' hdb

end Probe

/-- Over every sequence of lifespans and requests of one app, while it serves, and for every list of probes on a pool
of `size` connections: every run of the probes ends, and a probe that is answered is answered with its report.  All of
them are answered in every run that cannot go on exactly when the database is off or fewer than `size` of them ping
over a second connection; otherwise there is a run in which probes wait for ever. -/
theorem probes_report (settings : AppSettings) (validKey : String → Bool) (events : List ProcessEvent) {c : Container}
    (hserving : (Process.run settings validKey events).serving = some c) (requestId : String) {size : Nat}
    (hsize : 1 ≤ size) (ps : List Probe) :
    let machine := probes settings (Process.run settings validKey events).state requestId
    (∀ as s, machine.run (.initial size ps .arrived) as = some s →
      as.length ≤ 4 * ps.length ∧ s.workers.map Prod.fst = ps ∧
        ∀ p reply, (p, .answered reply) ∈ s.workers → reply = p.report settings) ∧
      ((∀ s, machine.Reachable (.initial size ps .arrived) s → (∀ i s', machine.step s i ≠ some s') →
          s.workers = ps.map fun p => (p, .answered (p.report settings))) ↔
        (settings.startupConnectDatabase = true → ps.countP Probe.pings < size)) := by
  intro machine
  have hserves := ((Process.wired_run settings validKey events).serving c hserving).2
  have hsame : ∀ s, machine.Reachable (.initial size ps .arrived) s → s.workers.map Prod.fst = ps := by
    intro s hs
    rw [Workers.fst_of_reachable hs]
    simp [Workers.initial, Function.comp_def]
  refine ⟨fun as s hs =>
    ⟨?_, hsame s ⟨as, hs⟩, fun p reply hx => Probe.reaches_of_reachable hserves ⟨as, hs⟩ _ hx⟩, ?_⟩
  · have hlength := Workers.run_length (fun _ _ _ _ _ ha => Probe.rank_step (Probe.step_of_advance hserves ha)) hs
    have hrank : ((Workers.initial size ps ProbePhase.arrived).workers.map fun x => Probe.rank x.2).sum =
        4 * ps.length := by
      simp [Workers.initial, Function.comp_def, Probe.rank, Nat.mul_comm]
    omega
  · rw [← Probe.deadlockFree_iff_pings hserves requestId hsize ps]
    constructor
    · rintro hanswered t ht ⟨x, hx, hdone⟩
      refine Classical.byContradiction fun hno => ?_
      rw [hanswered t ht fun i t' hs => hno ⟨i, t', hs⟩] at hx
      obtain ⟨p, -, rfl⟩ := List.mem_map.1 hx
      cases hdone
    · intro hlive s hs hstuck
      have hdone : ∀ x ∈ s.workers, x = (x.1, .answered (x.1.report settings)) := by
        rintro ⟨p, phase⟩ hx
        have hp := Probe.reaches_of_reachable hserves hs _ hx
        cases phase with
        | answered reply => exact congrArg (fun r => (p, ProbePhase.answered r)) hp
        | _ =>
          obtain ⟨i, s', hi⟩ := hlive s hs ⟨_, hx, rfl⟩
          exact absurd hi (hstuck i s')
      rw [← hsame s hs, List.map_map]
      exact (List.map_id _).symm.trans (List.map_congr_left hdone)

/-- A process with the database, in its second lifespan. -/
def databaseSettings : AppSettings where
  startupConnectDatabase := true
  startupPreloadJwks := false
  startupConnectRedis := false
  startupLoadCasbin := false
  startupCreateCelery := false
  postgresDatabaseUrl := some "postgresql://localhost/app"
  redisUrl := none
  supabaseProjectUrl := none
  supabaseAnonKey := none
  oauthRedirectUri := none
  supabaseJwksUrl := none
  sessionTokenEncryptionKey := none
  supabaseJwtIssuer := none
  rateLimitEnabled := true

def secondLifespan : List ProcessEvent :=
  [.enter ⟨none, false, none, none, false, none⟩, .identityMapper, .leave ⟨none, none, none⟩,
    .enter ⟨none, false, none, none, false, none⟩]

/-- Four probes on two connections: the second pings a database that does not answer, and the third cannot connect. -/
def fourProbes : List Probe :=
  [⟨.live, ⟨false, false, false, false, false⟩⟩, ⟨.ready, ⟨false, false, false, true, false⟩⟩,
    ⟨.deep, ⟨true, false, false, false, false⟩⟩, ⟨.live, ⟨false, true, false, false, false⟩⟩]

def readyProbe : Probe := ⟨.ready, ⟨false, false, false, false, false⟩⟩

/-- On two connections the four probes are answered, and ten readiness probes lock up a pool of the default size. -/
theorem probes_report_second_lifespan :
    let machine := probes databaseSettings (Process.run databaseSettings (fun _ => true) secondLifespan).state "6f1c"
    (∀ s, machine.Reachable (.initial 2 fourProbes .arrived) s → (∀ i s', machine.step s i ≠ some s') →
      s.workers.map Prod.snd = [.answered (.response 200), .answered (.response 503), .answered .exception,
        .answered .exception]) ∧
      ¬ ∀ s, machine.Reachable (.initial 10 (List.replicate 10 readyProbe) .arrived) s →
        (∀ i s', machine.step s i ≠ some s') →
        s.workers = (List.replicate 10 readyProbe).map fun p => (p, .answered (p.report databaseSettings)) := by
  intro machine
  obtain ⟨c, hserving⟩ : ∃ c, (Process.run databaseSettings (fun _ => true) secondLifespan).serving = some c :=
    ⟨_, rfl⟩
  have hfour := probes_report databaseSettings (fun _ => true) secondLifespan hserving "6f1c" (show 1 ≤ 2 by decide)
    fourProbes
  have hten := probes_report databaseSettings (fun _ => true) secondLifespan hserving "6f1c" (show 1 ≤ 10 by decide)
    (List.replicate 10 readyProbe)
  refine ⟨fun s hs hstuck => ?_, fun hanswered => absurd (hten.2.1 hanswered rfl) (by decide)⟩
  rw [hfour.2.2 (fun _ => by decide) s hs hstuck]
  rfl

end CleanBackend
