import CleanBackend.Auth.AuthRoutes

/-!
# The routes over the two repositories

Over `AsyncpgSessionRepository` every request goes through the same phases and gets the same response as over
`FakeSessionRepository`, up to the internal ids of the sessions, while no expiry overflows and the session time zone
makes no day longer or shorter (`RoutesAgree.run`).
-/

namespace CleanBackend

/-! ### Internal ids -/

def ActiveSessionDTO.withoutId (dto : ActiveSessionDTO) : ActiveSessionDTO := { dto with sessionInternalId := "" }

def AuthPhase.withoutId : AuthPhase → AuthPhase
  | touching session => touching session.withoutId
  | refreshing current => refreshing current.withoutId
  | loggingOut current => loggingOut current.withoutId
  | phase => phase

def RepositoryAnswer.withoutId : RepositoryAnswer → RepositoryAnswer
  | created dto => created { dto with sessionInternalId := "" }
  | session dto => session dto.withoutId
  | answer => answer

private theorem RepositoryAnswer.Same.withoutId {R : String → String → Prop} {answer answer' : RepositoryAnswer}
    (h : answer.Same R answer') : answer.withoutId = answer'.withoutId := by
  cases h <;> rfl

namespace AuthPhase

@[simp] theorem nextCall_withoutId (phase : AuthPhase) (idleTtlSeconds : Int) (token : String) :
    phase.withoutId.nextCall idleTtlSeconds token = phase.nextCall idleTtlSeconds token := by
  cases phase <;> rfl

@[simp] theorem mints_withoutId (phase : AuthPhase) : phase.withoutId.mints = phase.mints := by
  cases phase <;> rfl

private theorem withoutId_eq_revoking {phase : AuthPhase} : phase.withoutId = .revoking ↔ phase = .revoking := by
  cases phase <;> simp [withoutId]

theorem withoutId_eq_answered {phase : AuthPhase} {response : AuthResponse} :
    phase.withoutId = .answered response ↔ phase = .answered response := by
  cases phase <;> simp [withoutId]

private theorem resume_withoutId (phase : AuthPhase) (route : AuthRoute) (answer : RepositoryAnswer) :
    (phase.resume route answer).withoutId = phase.withoutId.resume route answer.withoutId := by
  cases phase with
  | reading =>
    cases answer with
    | raised e =>
      have hite : ∀ (c : Prop) [Decidable c], (if c then revoking else raise (.repository e)).withoutId =
          if c then revoking else raise (.repository e) := by
        intro c _
        split <;> rfl
      exact hite _
    | _ => cases route <;> rfl
  | touching dto => cases answer <;> cases route <;> rfl
  | _ => cases answer <;> rfl

end AuthPhase

private theorem RepositoryCall.rotation_withoutId (call : RepositoryCall) (answer : RepositoryAnswer) :
    call.rotation answer.withoutId = call.rotation answer := by
  cases call <;> cases answer <;> rfl

private theorem AuthRequest.afterGoTrue_withoutId (r : AuthRequest) (idleTtlSeconds now : Int) (token : String)
    (phase : AuthPhase) (reply : GoTrueReply) :
    (r.afterGoTrue idleTtlSeconds now token phase reply).map AuthPhase.withoutId =
      r.afterGoTrue idleTtlSeconds now token phase.withoutId reply := by
  cases phase <;> cases reply <;> rfl

/-- The requests without the ids of their sessions. -/
def AuthState.view {σ : Type} (s : AuthState σ) : AuthState Unit where
  store := ()
  requests := s.requests.map fun x => (x.1, x.2.withoutId)
  rotations := s.rotations

section View

variable {σ τ : Type} {s : AuthState σ} {t : AuthState τ} {i : Nat} {r : AuthRequest} {phase : AuthPhase}

theorem AuthState.requests_view (hv : s.view = t.view) (hi : s.requests[i]? = some (r, phase)) :
    ∃ phase', t.requests[i]? = some (r, phase') ∧ phase.withoutId = phase'.withoutId := by
  have h : (t.requests[i]?).map (fun x => (x.1, x.2.withoutId)) = some (r, phase.withoutId) := by
    have hmap := congrArg (fun v => v.requests[i]?) hv
    simp only [view, List.getElem?_map, hi, Option.map_some] at hmap
    exact hmap.symm
  obtain ⟨⟨r', phase'⟩, hi', heq⟩ := Option.map_eq_some_iff.1 h
  obtain ⟨rfl, hp⟩ := Prod.mk.inj heq
  exact ⟨phase', hi', hp.symm⟩

private theorem AuthState.view_set {store : σ} {store' : τ} {phase' : AuthPhase}
    {rotations rotations' : List (String × String)} (hv : s.view = t.view) (hp : phase.withoutId = phase'.withoutId)
    (hr : rotations = rotations') :
    (⟨store, s.requests.set i (r, phase), rotations⟩ : AuthState σ).view =
      (⟨store', t.requests.set i (r, phase'), rotations'⟩ : AuthState τ).view := by
  have hmap := congrArg AuthState.requests hv
  simp only [view] at hmap
  simp only [view, List.map_set, hmap, hp, hr]

/-- The conditions on the tokens do not depend on the ids. -/
theorem AuthState.mints_view (hv : s.view = t.view) {y : AuthRequest × AuthPhase} (hy : y ∈ t.requests[i]?) :
    ∃ x ∈ s.requests[i]?, x.1 = y.1 ∧ x.2.mints = y.2.mints ∧ (y.2 = .revoking → x.2 = .revoking) := by
  obtain ⟨r, phase⟩ := y
  obtain ⟨phase', hi, hp⟩ := requests_view hv.symm hy
  refine ⟨(r, phase'), hi, rfl, ?_, ?_⟩
  · rw [← AuthPhase.mints_withoutId, ← hp, AuthPhase.mints_withoutId]
  · intro hrev
    have hrev : phase = .revoking := hrev
    exact AuthPhase.withoutId_eq_revoking.1 (hp ▸ AuthPhase.withoutId_eq_revoking.2 hrev)

end View

/-! ### The simulation -/

/-- The states of the routes over the two repositories. -/
structure RoutesAgree (ids : IdentityTables) (env : AdapterEnv) (T : List String)
    (s : AuthState FakeSessionRepository) (t : AuthState Database) : Prop where
  stores : Agree ids env (fun _ => True) (fun _ _ => True) T s.store t.store
  view : s.view = t.view
  fits : s.Fits T

/-- The row id a step draws. -/
def AuthAction.rowId : AuthAction → Option Uuid
  | .call _ _ _ draws => some draws.rowId
  | _ => none

def AuthAction.time : AuthAction → Option Int
  | .call _ now _ _ => some now
  | _ => none

/-- The call of a step brings no token of a session, and its expiries are Python datetimes. -/
def RegularCall (idleTtlSeconds : Int) (s : AuthState FakeSessionRepository) (a : AuthAction) : Prop :=
  ∀ i ∈ a.caller, ∀ x ∈ s.requests[i]?, (∀ t ∈ x.2.mints, s.store.sessions.get t = none) ∧
    ∀ call ∈ x.2.nextCall idleTtlSeconds x.1.sessionToken, ∀ seconds ∈ call.ttls, ∀ now ∈ a.time,
      InDatetimeRange (now + timedelta seconds)

instance (idleTtlSeconds : Int) (s : AuthState FakeSessionRepository) (a : AuthAction) :
    Decidable (RegularCall idleTtlSeconds s a) :=
  inferInstanceAs (Decidable (∀ i ∈ a.caller, ∀ x ∈ s.requests[i]?, (∀ t ∈ x.2.mints, _) ∧
    ∀ call ∈ x.2.nextCall idleTtlSeconds x.1.sessionToken, ∀ seconds ∈ call.ttls, ∀ now ∈ a.time, _))

/-- In the session time zone, every interval is as long as its `timedelta`. -/
def AdapterEnv.ExactIntervals (env : AdapterEnv) : Prop :=
  ∀ now seconds, env.intervalLength now seconds = timedelta seconds

/-- The calls of the routes mention the tokens a request holds. -/
private theorem AuthPhase.Fits.call_tokens {T : List String} {r : AuthRequest} {phase : AuthPhase}
    {idleTtlSeconds : Int} {call : RepositoryCall} (hf : phase.Fits T r) (hr : r.sessionToken ∈ T)
    (hc : phase.nextCall idleTtlSeconds r.sessionToken = some call) :
    (∀ t ∈ call.newToken.toList ++ call.oldToken.toList, t ∈ T) ∧ call.newToken = phase.mints ∧
      (∀ ids, call.MemberIds ids) ∧ call.texts = [] := by
  cases phase with
  | resolving | reading | revoking | touching _ =>
    cases hc
    exact ⟨fun t ht => List.mem_singleton.1 ht ▸ hr, rfl, fun _ => trivial, rfl⟩
  | refreshing _ | loggingOut _ | answered _ => cases hc
  | rotating params =>
    cases hc
    obtain ⟨-, hold, hnew⟩ := hf
    refine ⟨fun t ht => ?_, rfl, fun _ => trivial, rfl⟩
    rcases List.mem_cons.1 ht with rfl | ht
    · exact hnew
    · cases List.mem_singleton.1 ht
      exact hold ▸ hr

namespace RoutesAgree

variable {ids : IdentityTables} {env : AdapterEnv} {T : List String} {idleTtlSeconds : Int}
  {s s' : AuthState FakeSessionRepository} {t : AuthState Database} {a : AuthAction}

/-- Over the database a step can be taken when it can be taken in memory, with the same effect on the requests. -/
private theorem step (h : RoutesAgree ids env T s t) (henv : env.Lawful) (hexact : env.ExactIntervals)
    (hT : env.Separates T)
    (ht : ∀ u ∈ a.tokens, u ∈ T) (hrow : ∀ i ∈ a.rowId, i ∉ t.store.userSessions.map UserSession.id)
    (hreg : RegularCall idleTtlSeconds s a)
    (hstep : (authMachine FakeSessionRepository.store idleTtlSeconds).step s a = some s') :
    ∃ t', (authMachine env.store idleTtlSeconds).step t a = some t' ∧ RoutesAgree ids env T s' t' ∧
      ∀ i, i ∉ t.store.userSessions.map UserSession.id → a.rowId ≠ some i →
        i ∉ t'.store.userSessions.map UserSession.id := by
  have hstep := authMachine_step.1 hstep
  have hfits := h.fits.step ht hstep
  have hrotations : s.rotations = t.rotations := congrArg AuthState.rotations h.view
  cases hstep with
  | arrive r =>
    refine ⟨_, authMachine_step.2 (.arrive r), ⟨h.stores, ?_, hfits⟩, fun i hi _ => hi⟩
    have hmap := congrArg AuthState.requests h.view
    simp only [AuthState.view] at hmap
    simp only [AuthState.view, List.map_append, hmap, hrotations]
  | @call i r phase call now internalId draws hi hc =>
    obtain ⟨phase', hi', hp⟩ := AuthState.requests_view h.view hi
    obtain ⟨hr, hf⟩ := h.fits _ (List.mem_of_getElem? hi)
    obtain ⟨htokens, hmints, hmem, htexts⟩ := hf.call_tokens hr hc
    obtain ⟨hnew, hexpiries⟩ := hreg i rfl _ hi
    have hc' : phase'.nextCall idleTtlSeconds r.sessionToken = some call := by
      rw [← AuthPhase.nextCall_withoutId, ← hp, AuthPhase.nextCall_withoutId, hc]
    let step : RepositoryStep := ⟨now, call, internalId, draws⟩
    -- one call of the two repositories, which agree
    have hcall : Agree ids env (fun _ => True) (fun _ _ => True) T (s.store.execStep step).1
        (env.execStep t.store step).1 ∧
        (s.store.execStep step).2.Same (fun _ _ => True) (env.execStep t.store step).2 :=
      h.stores.step henv.toLawfulOn (fun _ _ => trivial) hT
        ⟨htexts ▸ fun _ h => (nomatch h), fun _ _ => hexact _ _,
          fun seconds hs => hexpiries call hc seconds hs now rfl, fun _ _ => trivial⟩
        htokens (hmem ids) (fun u hu => hnew u (hmints ▸ hu)) (hrow _ rfl) trivial
    obtain ⟨hstores, hanswer⟩ := hcall
    have hanswer := hanswer.withoutId
    refine ⟨_, authMachine_step.2 (.call now internalId draws hi' hc'), ⟨hstores, ?_, hfits⟩, fun j hj hne => ?_⟩
    · refine AuthState.view_set h.view ?_ ?_
      · rw [AuthPhase.resume_withoutId, AuthPhase.resume_withoutId, hp]
        exact congrArg _ hanswer
      · rw [← RepositoryCall.rotation_withoutId, ← RepositoryCall.rotation_withoutId call (env.store.exec _ _).2,
          hrotations]
        exact congrArg (call.rotation · ++ t.rotations) hanswer
    · have hid : step.draws.rowId ≠ j := fun he => hne (congrArg some he)
      exact AdapterEnv.ids_execStep hj hid
  | @gotrue i r phase next now reply token hi hg =>
    obtain ⟨phase', hi', hp⟩ := AuthState.requests_view h.view hi
    have hg' := congrArg (Option.map AuthPhase.withoutId) hg
    rw [AuthRequest.afterGoTrue_withoutId, hp, ← AuthRequest.afterGoTrue_withoutId, Option.map_some] at hg'
    obtain ⟨next', hg', hn⟩ := Option.map_eq_some_iff.1 hg'
    exact ⟨_, authMachine_step.2 (.gotrue hi' hg'), ⟨h.stores, AuthState.view_set h.view hn.symm hrotations, hfits⟩,
      fun j hj _ => hj⟩
  | @abort i r phase hi hne =>
    obtain ⟨phase', hi', hp⟩ := AuthState.requests_view h.view hi
    have hne' : ∀ response, phase' ≠ .answered response := fun response he =>
      hne response (AuthPhase.withoutId_eq_answered.1 (hp.trans (AuthPhase.withoutId_eq_answered.2 he)))
    exact ⟨_, authMachine_step.2 (.abort hi' hne'), ⟨h.stores, AuthState.view_set h.view rfl hrotations, hfits⟩,
      fun j hj _ => hj⟩

end RoutesAgree

/-! ### Runs -/

/-- What the actions to come need: tokens of `T`, row ids that are new, and regular calls. -/
structure Supplied (idleTtlSeconds : Int) (T : List String) (s : AuthState FakeSessionRepository)
    (t : AuthState Database) (as : List AuthAction) : Prop where
  tokens : ∀ a ∈ as, ∀ u ∈ a.tokens, u ∈ T
  rows : (as.filterMap AuthAction.rowId).Nodup
  newRows : ∀ i ∈ as.filterMap AuthAction.rowId, i ∉ t.store.userSessions.map UserSession.id
  regular : (authMachine FakeSessionRepository.store idleTtlSeconds).Along (RegularCall idleTtlSeconds) s as

namespace RoutesAgree

variable {ids : IdentityTables} {env : AdapterEnv} {T : List String} {idleTtlSeconds : Int}
  {s s' : AuthState FakeSessionRepository} {t : AuthState Database} {a : AuthAction} {as : List AuthAction}

private theorem supplied_step (henv : env.Lawful) (hexact : env.ExactIntervals) (hT : env.Separates T)
    (h : RoutesAgree ids env T s t ∧ Supplied idleTtlSeconds T s t (a :: as))
    (hstep : (authMachine FakeSessionRepository.store idleTtlSeconds).step s a = some s') :
    ∃ t', (authMachine env.store idleTtlSeconds).step t a = some t' ∧
      RoutesAgree ids env T s' t' ∧ Supplied idleTtlSeconds T s' t' as := by
  obtain ⟨hagree, hs⟩ := h
  have hmem : ∀ i ∈ a.rowId, i ∈ (a :: as).filterMap AuthAction.rowId :=
    fun i hi => List.mem_filterMap.2 ⟨a, List.mem_cons_self, hi⟩
  obtain ⟨t', ht', hagree', hrows⟩ := hagree.step henv hexact hT (hs.tokens a List.mem_cons_self)
    (fun i hi => hs.newRows i (hmem i hi)) hs.regular.1 hstep
  have hrest : ∀ i ∈ as.filterMap AuthAction.rowId, i ∈ (a :: as).filterMap AuthAction.rowId := by
    intro i hi
    obtain ⟨b, hb, hbi⟩ := List.mem_filterMap.1 hi
    exact List.mem_filterMap.2 ⟨b, List.mem_cons_of_mem a hb, hbi⟩
  have hnodup : (as.filterMap AuthAction.rowId).Nodup ∧ ∀ i ∈ as.filterMap AuthAction.rowId, a.rowId ≠ some i := by
    have hrows := hs.rows
    cases hr : a.rowId with
    | none =>
      rw [List.filterMap_cons, hr] at hrows
      exact ⟨hrows, fun i _ => nofun⟩
    | some j =>
      rw [List.filterMap_cons, hr, List.nodup_cons] at hrows
      refine ⟨hrows.2, fun i hi he => ?_⟩
      cases he
      exact hrows.1 hi
  exact ⟨t', ht', hagree', fun b hb => hs.tokens b (List.mem_cons_of_mem a hb), hnodup.1,
    fun i hi => hrows i (hs.newRows i (hrest i hi)) (hnodup.2 i hi), hs.regular.2 s' hstep⟩

/-- What the requests go through in memory, they go through over the database. -/
theorem run (h : RoutesAgree ids env T s t) (henv : env.Lawful) (hexact : env.ExactIntervals)
    (hT : env.Separates T) (hs : Supplied idleTtlSeconds T s t as)
    (hrun : (authMachine FakeSessionRepository.store idleTtlSeconds).run s as = some s') :
    ∃ t', (authMachine env.store idleTtlSeconds).run t as = some t' ∧ RoutesAgree ids env T s' t' := by
  obtain ⟨t', ht', hagree, -⟩ := Machine.exists_run_of_simulation
    (R := fun s t as => RoutesAgree ids env T s t ∧ Supplied idleTtlSeconds T s t as)
    (fun _ _ _ _ _ hR hstep => supplied_step henv hexact hT hR hstep) ⟨h, hs⟩ hrun
  exact ⟨t', ht', hagree⟩

/-- A condition on the requests and the rotations that is met in memory is met over the database. -/
theorem along (h : RoutesAgree ids env T s t) (henv : env.Lawful) (hexact : env.ExactIntervals)
    (hT : env.Separates T) (hs : Supplied idleTtlSeconds T s t as)
    (hrun : (authMachine FakeSessionRepository.store idleTtlSeconds).run s as = some s')
    {C : AuthState FakeSessionRepository → AuthAction → Prop} {D : AuthState Database → AuthAction → Prop}
    (hCD : ∀ {s t a}, s.view = t.view → C s a → D t a)
    (hc : (authMachine FakeSessionRepository.store idleTtlSeconds).Along C s as) :
    (authMachine env.store idleTtlSeconds).Along D t as :=
  Machine.Along.of_simulation (R := fun s t as => RoutesAgree ids env T s t ∧ Supplied idleTtlSeconds T s t as)
    (C := C) (D := D) (fun _ _ _ _ _ hR hstep => supplied_step henv hexact hT hR hstep)
    (fun _ _ _ _ hR hc => hCD hR.1.view hc) ⟨h, hs⟩ hrun hc

end RoutesAgree

end CleanBackend
