import CleanBackend.Auth.AuthRoutes
import CleanBackend.Lib.Custody

/-!
# Refreshes and the refresh token of GoTrue

`POST /auth/refresh` changes two systems one after the other: `client.refresh` takes the refresh token of the session
back for a new one, then `rotate` puts the new one into a new session.  `refreshMachine` interleaves the refreshes of
a login with a GoTrue that accepts the refresh token it issued last; every call may fail.

A request that ends between the two changes leaves its session with a token that GoTrue has taken back
(`refresh_stranded`).  In the runs where that happens to no valid session, the valid session of the login stores the
token GoTrue accepts (`refresh_never_strands`).
-/

namespace CleanBackend

/-! ### Calls that fail -/

/-- How the server meets a repository call. -/
inductive CallOutcome where
  | served
  /-- the statement has not run -/
  | refused (error : RepositoryError)
  /-- the statement has run, its result is lost -/
  | answerLost (error : RepositoryError)
  deriving DecidableEq, Repr

/-- The repository, where a call meets `outcome`. -/
def SessionStore.meeting {σ : Type} (S : SessionStore σ) (outcome : CallOutcome) : SessionStore σ where
  exec s step :=
    match outcome with
    | .served => S.exec s step
    | .refused error => (s, .raised error)
    | .answerLost error => ((S.exec s step).1, .raised error)
  Unrevoked := S.Unrevoked

/-- How GoTrue meets a refresh. -/
inductive RefreshOutcome where
  | issues (set : GoTrueTokenSet)
  /-- the token is taken back, and the answer does not arrive -/
  | answerLost (set : GoTrueTokenSet)
  | refuses
  deriving DecidableEq, Repr

def RefreshOutcome.issued : RefreshOutcome → Option GoTrueTokenSet
  | issues set | answerLost set => some set
  | refuses => none

/-- What the client makes of it. -/
def RefreshOutcome.reply : RefreshOutcome → GoTrueReply
  | issues set => .tokens set
  | answerLost _ | refuses => .exchangeError

/-! ### The machine -/

/-- The app, and GoTrue: the refresh token it accepts, and all that it has issued for the login. -/
structure RefreshState where
  auth : AuthState Database
  clock : Int
  accepted : String
  issued : List String

inductive RefreshAction where
  | arrive (request : AuthRequest)
  | call (i : Nat) (now : Int) (internalId : Uuid) (draws : Draws) (outcome : CallOutcome)
  /-- GoTrue meets the refresh of request `i` -/
  | refresh (i : Nat) (now : Int) (outcome : RefreshOutcome) (newSessionToken : String)
  /-- request `i` meets an exception that nothing catches -/
  | abort (i : Nat)
  deriving DecidableEq, Repr

def RefreshAction.arrival : RefreshAction → Option AuthRequest
  | arrive request => some request
  | _ => none

/-- The refresh token a request presents to GoTrue. -/
def AuthPhase.presents : AuthPhase → Option String
  | refreshing current => some current.gotrueRefreshToken
  | _ => none

/-- GoTrue may issue a new token to request `i`. -/
def RefreshState.Issues (s : RefreshState) (i : Nat) (set : GoTrueTokenSet) : Prop :=
  (s.auth.requests[i]?).bind (fun x => x.2.presents) = some s.accepted ∧ set.refreshToken ∉ s.issued

instance (s : RefreshState) (i : Nat) (set : GoTrueTokenSet) : Decidable (s.Issues i set) :=
  inferInstanceAs (Decidable (_ ∧ _))

def refreshMachine (env : AdapterEnv) (idleTtlSeconds : Int) : Machine RefreshState RefreshAction where
  step s
    | .arrive r =>
      ((authMachine env.store idleTtlSeconds).step s.auth (.arrive r)).map fun auth => { s with auth }
    | .call i now internalId draws outcome =>
      if now < s.clock then none
      else
        ((authMachine (env.store.meeting outcome) idleTtlSeconds).step s.auth (.call i now internalId draws)).map
          fun auth => { s with auth, clock := now }
    | .refresh i now outcome newSessionToken =>
      if now < s.clock then none
      else
        let after := (authMachine env.store idleTtlSeconds).step s.auth (.gotrue i now outcome.reply newSessionToken)
        match outcome.issued with
        | none => after.map fun auth => { s with auth, clock := now }
        | some set =>
          if s.Issues i set then
            after.map fun auth =>
              { auth, clock := now, accepted := set.refreshToken, issued := set.refreshToken :: s.issued }
          else none
    | .abort i => ((authMachine env.store idleTtlSeconds).step s.auth (.abort i)).map fun auth => { s with auth }

/-- The login has stored `token`, which GoTrue accepts. -/
def RefreshState.init (db : Database) (clock : Int) (token : String) (issued : List String) : RefreshState :=
  ⟨.init db, clock, token, token :: issued⟩

/-! ### The statements -/

/-- A token hash of the login, or one that was in no row when the run began. -/
def Database.OfLogin (db : Database) (login h : Bytea) : Prop := db.sessionOf h = none ∨ h = login

/-- The session of a token is valid. -/
def RefreshState.Valid (env : AdapterEnv) (s : RefreshState) (token : String) : Prop :=
  ∃ row, s.auth.store.sessionOf (env.hashSessionToken token) = some row ∧ row.Live s.clock

/-- The valid sessions of the login store the token that GoTrue accepts. -/
def RefreshState.Stored (env : AdapterEnv) (own : Bytea → Prop) (s : RefreshState) : Prop :=
  ∀ h row, own h → s.auth.store.sessionOf h = some row → row.Live s.clock →
    env.decrypt row.gotrueRefreshToken = .ok s.accepted

def RefreshState.AllAnswered (s : RefreshState) : Prop :=
  ∀ x ∈ s.auth.requests, ∃ response, x.2 = .answered response

/-- Every refresh has been answered, and the valid session of a token stores a token that GoTrue has taken back. -/
def RefreshState.Stranded (env : AdapterEnv) (s : RefreshState) (sessionToken : String) : Prop :=
  s.AllAnswered ∧ ∃ row, s.auth.store.sessionOf (env.hashSessionToken sessionToken) = some row ∧ row.Live s.clock ∧
    env.decrypt row.gotrueRefreshToken ≠ .ok s.accepted

/-- The step loses the answer of GoTrue, or it ends a request between its `client.refresh` and its `rotate` while its
session is valid. -/
def Strands (env : AdapterEnv) (idleTtlSeconds : Int) (s : RefreshState) (a : RefreshAction) : Prop :=
  (∃ i now set token, a = .refresh i now (.answerLost set) token) ∨
  ∃ (i : Nat) (r : AuthRequest) (params : RotateParams) (response : AuthResponse) (s' : RefreshState),
    s.auth.requests[i]? = some (r, AuthPhase.rotating params) ∧
    (refreshMachine env idleTtlSeconds).step s a = some s' ∧
    s'.auth.requests[i]? = some (r, AuthPhase.answered response) ∧ s'.Valid env r.sessionToken

/-! ### The steps -/

/-- The steps of `refreshMachine`. -/
inductive RefreshStep (env : AdapterEnv) (idleTtlSeconds : Int) (s : RefreshState) :
    RefreshAction → RefreshState → Prop where
  | arrive (r : AuthRequest) : RefreshStep env idleTtlSeconds s (.arrive r)
      { s with auth := { s.auth with requests := s.auth.requests ++ [(r, r.enter)] } }
  | call {i : Nat} {r : AuthRequest} {phase : AuthPhase} {call : RepositoryCall} {now : Int} (internalId : Uuid)
      (draws : Draws) (outcome : CallOutcome) {store : Database} {answer : RepositoryAnswer} (hnow : s.clock ≤ now)
      (hi : s.auth.requests[i]? = some (r, phase)) (hc : phase.nextCall idleTtlSeconds r.sessionToken = some call)
      (hexec : (env.store.meeting outcome).exec s.auth.store ⟨now, call, internalId, draws⟩ = (store, answer)) :
      RefreshStep env idleTtlSeconds s (.call i now internalId draws outcome)
        { s with
          auth := ⟨store, s.auth.requests.set i (r, phase.resume r.route answer),
            call.rotation answer ++ s.auth.rotations⟩
          clock := now }
  | refused {i : Nat} {r : AuthRequest} {phase phase' : AuthPhase} {now : Int} {token : String} (hnow : s.clock ≤ now)
      (hi : s.auth.requests[i]? = some (r, phase))
      (hg : r.afterGoTrue idleTtlSeconds now token phase .exchangeError = some phase') :
      RefreshStep env idleTtlSeconds s (.refresh i now .refuses token)
        { s with auth := { s.auth with requests := s.auth.requests.set i (r, phase') }, clock := now }
  | issued {i : Nat} {r : AuthRequest} {phase phase' : AuthPhase} {now : Int} {outcome : RefreshOutcome}
      {set : GoTrueTokenSet} {token : String} (hnow : s.clock ≤ now) (hset : outcome.issued = some set)
      (hi : s.auth.requests[i]? = some (r, phase)) (hissues : phase.presents = some s.accepted)
      (hnew : set.refreshToken ∉ s.issued)
      (hg : r.afterGoTrue idleTtlSeconds now token phase outcome.reply = some phase') :
      RefreshStep env idleTtlSeconds s (.refresh i now outcome token)
        { auth := { s.auth with requests := s.auth.requests.set i (r, phase') }
          clock := now
          accepted := set.refreshToken
          issued := set.refreshToken :: s.issued }
  | abort {i : Nat} {r : AuthRequest} {phase : AuthPhase} (hi : s.auth.requests[i]? = some (r, phase))
      (hne : ∀ response, phase ≠ .answered response) :
      RefreshStep env idleTtlSeconds s (.abort i)
        { s with auth := { s.auth with requests := s.auth.requests.set i (r, .raise .unhandled) } }

private theorem refreshMachine_step {env : AdapterEnv} {idleTtlSeconds : Int} {s s' : RefreshState}
    {a : RefreshAction} :
    (refreshMachine env idleTtlSeconds).step s a = some s' ↔ RefreshStep env idleTtlSeconds s a s' := by
  constructor
  · intro h
    cases a with
    | arrive r =>
      simp only [refreshMachine] at h
      obtain ⟨auth, ha, rfl⟩ := Option.map_eq_some_iff.1 h
      cases authMachine_step.1 ha with
      | arrive => exact .arrive r
    | call i now internalId draws outcome =>
      simp only [refreshMachine] at h
      split at h
      · cases h
      · rename_i hnow
        obtain ⟨auth, ha, rfl⟩ := Option.map_eq_some_iff.1 h
        cases authMachine_step.1 ha with
        | call _ _ _ hi hc => exact .call internalId draws outcome (Int.not_lt.1 hnow) hi hc rfl
    | refresh i now outcome token =>
      simp only [refreshMachine] at h
      split at h
      · cases h
      · rename_i hnow
        -- GoTrue refuses, or it issues a set that is new
        have hnow : s.clock ≤ now := Int.not_lt.1 hnow
        split at h
        · rename_i hnone
          obtain ⟨auth, ha, rfl⟩ := Option.map_eq_some_iff.1 h
          cases outcome with
          | issues set | answerLost set => cases hnone
          | refuses =>
            cases authMachine_step.1 ha with
            | gotrue hi hg => exact .refused hnow hi hg
        · rename_i set hset
          split at h
          · rename_i hissues
            obtain ⟨auth, ha, rfl⟩ := Option.map_eq_some_iff.1 h
            cases authMachine_step.1 ha with
            | gotrue hi hg =>
              obtain ⟨hpresents, hnew⟩ := hissues
              rw [hi] at hpresents
              exact .issued hnow hset hi hpresents hnew hg
          · cases h
    | abort i =>
      simp only [refreshMachine] at h
      obtain ⟨auth, ha, rfl⟩ := Option.map_eq_some_iff.1 h
      cases authMachine_step.1 ha with
      | abort hi hne => exact .abort hi hne
  · intro h
    cases h with
    | arrive r => rfl
    | call internalId draws outcome hnow hi hc hexec =>
      simp only [refreshMachine]
      rw [if_neg (Int.not_lt.2 hnow), authMachine_step.2 (.call _ internalId draws hi hc), hexec]
      rfl
    | refused hnow hi hg =>
      simp only [refreshMachine]
      rw [if_neg (Int.not_lt.2 hnow)]
      show Option.map _ _ = _
      rw [RefreshOutcome.reply, authMachine_step.2 (.gotrue hi hg)]
      rfl
    | @issued i _ _ _ _ _ set _ hnow hset hi hpresents hnew hg =>
      have hissues : s.Issues i set := by
        refine ⟨?_, hnew⟩
        rw [hi]
        exact hpresents
      simp only [refreshMachine]
      rw [if_neg (Int.not_lt.2 hnow), hset]
      simp only [if_pos hissues]
      rw [authMachine_step.2 (.gotrue hi hg)]
      rfl
    | abort hi hne =>
      simp only [refreshMachine]
      rw [authMachine_step.2 (.abort hi hne)]
      rfl

/-! ### The invariant -/

/-- The sessions as records of refresh tokens. -/
def AdapterEnv.records (env : AdapterEnv) (db : Database) (h : Bytea) : Option (Custody.Record String) :=
  (db.sessionOf h).map fun row => ⟨row.revokedAt.isSome, (env.decrypt row.gotrueRefreshToken).toOption⟩

/-- What a refresh has in hand: a token its session stores, then the accepted token, which no session stores yet. -/
def AuthPhase.Holds (own : Bytea → Prop) (records : Bytea → Option (Custody.Record String)) (accepted : String)
    (r : AuthRequest) (h : Bytea) : AuthPhase → Prop
  | refreshing current => ∃ c, records h = some c ∧ c.token = some current.gotrueRefreshToken
  | rotating params =>
    params.oldSessionToken = r.sessionToken ∧ params.refreshToken = accepted ∧
      (∃ c, records h = some c ∧ c.closed = false) ∧ Custody.Pending own records accepted
  | loggingOut _ | revoking => False
  | _ => True

/-- The invariant of the runs. -/
structure Linked (env : AdapterEnv) (own : Bytea → Prop) (s : RefreshState) : Prop where
  custody : Custody own (env.records s.auth.store) s.accepted s.issued
  requests : ∀ x ∈ s.auth.requests, x.1.route = .refresh ∧ own (env.hashSessionToken x.1.sessionToken) ∧
    x.2.Holds own (env.records s.auth.store) s.accepted x.1 (env.hashSessionToken x.1.sessionToken)
  /-- at most one request is between GoTrue and its rotation -/
  alone {i j : Nat} {r r' : AuthRequest} {params params' : RotateParams} :
    s.auth.requests[i]? = some (r, .rotating params) → s.auth.requests[j]? = some (r', .rotating params') → i = j
  stored : (∃ x ∈ s.auth.requests, ∃ params, x.2 = .rotating params) ∨ s.Stored env own

section Records

variable {env : AdapterEnv} {db : Database}

private theorem AdapterEnv.records_some (env : AdapterEnv) {h : Bytea} {row : UserSession}
    (hs : db.sessionOf h = some row) :
    env.records db h = some ⟨row.revokedAt.isSome, (env.decrypt row.gotrueRefreshToken).toOption⟩ := by
  rw [records, hs]
  rfl

private theorem AdapterEnv.decrypt_of_record {ciphertext : Bytea} {token : String}
    (h : (env.decrypt ciphertext).toOption = some token) : env.decrypt ciphertext = .ok token := by
  cases hd : env.decrypt ciphertext with
  | error e => rw [hd] at h; cases h
  | ok text => rw [hd] at h; cases h; rfl

/-- A touch moves no token. -/
private theorem AdapterEnv.records_slide {h : Bytea} {row : UserSession} (hs : db.sessionOf h = some row)
    (now idleTtl : Int) :
    env.records (db.updateSessions (.slide now idleTtl) (·.id == row.id)) = env.records db := by
  funext k
  unfold records
  rw [Database.sessionOf_update_id hs]
  split
  · rename_i hk
    rw [hk, hs]
    rfl
  · rfl

/-- A rotation moves the new token into a new record. -/
private theorem AdapterEnv.records_rotate {db₁ : Database} {old : UserSession} {p : RotateParams}
    {draws : Draws} {now : Int} (henv : env.Lawful)
    (hs : db.sessionOf (env.hashSessionToken p.oldSessionToken) = some old)
    (hins : db.insertSession ((env.rotateArgs now draws p).row draws.rowId now old) = .ok db₁) :
    env.records (db₁.updateSessions (.revoke now) (·.id == old.id)) =
      Custody.moved (env.records db) (env.hashSessionToken p.oldSessionToken) (env.hashSessionToken p.newSessionToken)
        ⟨old.revokedAt.isSome, (env.decrypt old.gotrueRefreshToken).toOption⟩ p.refreshToken := by
  have hne : env.hashSessionToken p.newSessionToken ≠ env.hashSessionToken p.oldSessionToken :=
    Database.tokenHash_ne_of_insert hins hs
  have hs₁ : db₁.sessionOf (env.hashSessionToken p.oldSessionToken) = some old :=
    Database.sessionOf_insert_of_some hins hs
  funext k
  unfold records Custody.moved
  rw [Database.sessionOf_update_id hs₁]
  split
  · rfl
  · rw [Database.sessionOf_insert hins]
    have hrow : ((env.rotateArgs now draws p).row draws.rowId now old).tokenHash =
        env.hashSessionToken p.newSessionToken :=
      rfl
    rw [hrow]
    -- the new record gets the token, which the database stores encrypted
    by_cases hk : k = env.hashSessionToken p.newSessionToken
    · rw [if_pos hk, if_pos hk.symm]
      show some (Custody.Record.mk false (env.decrypt (env.encrypt draws.refresh p.refreshToken)).toOption) = _
      rw [decrypt_encrypt henv.toLawfulOn]
      rfl
    · rw [if_neg hk, if_neg fun he => hk he.symm]

end Records

section Invariant

variable {env : AdapterEnv} {own : Bytea → Prop} {s : RefreshState} {i : Nat} {r : AuthRequest}
  {phase phase' : AuthPhase}

/-- A request moves on, and no token moves. -/
private theorem Linked.move (h : Linked env own s) (hi : s.auth.requests[i]? = some (r, phase)) {store : Database}
    (hrecords : env.records store = env.records s.auth.store) {now : Int}
    (hlive : ∀ k row', store.sessionOf k = some row' → row'.Live now →
      ∃ row, s.auth.store.sessionOf k = some row ∧ row.Live s.clock) (rotations : List (String × String))
    (hholds : phase'.Holds own (env.records s.auth.store) s.accepted r (env.hashSessionToken r.sessionToken))
    (hrot : ∀ params, phase' ≠ .rotating params)
    (hdone : ∀ params, phase = .rotating params → RefreshState.Stored env own
      { s with auth := ⟨store, s.auth.requests.set i (r, phase'), rotations⟩, clock := now }) :
    Linked env own { s with auth := ⟨store, s.auth.requests.set i (r, phase'), rotations⟩, clock := now } where
  custody := hrecords ▸ h.custody
  requests x hx := by
    show _ ∧ _ ∧ x.2.Holds own (env.records store) s.accepted _ _
    rw [hrecords]
    rcases List.mem_or_eq_of_mem_set hx with hx | rfl
    · exact h.requests x hx
    · obtain ⟨hroute, hown, -⟩ := h.requests _ (List.mem_of_getElem? hi)
      exact ⟨hroute, hown, hholds⟩
  alone hj hl := by
    rcases getElem?_set_cases hj with ⟨-, heq⟩ | ⟨-, hj⟩
    · exact absurd (Prod.mk.inj heq).2.symm (hrot _)
    · rcases getElem?_set_cases hl with ⟨-, heq⟩ | ⟨-, hl⟩
      · exact absurd (Prod.mk.inj heq).2.symm (hrot _)
      · exact h.alone hj hl
  stored := by
    by_cases hphase : ∃ params, phase = .rotating params
    · obtain ⟨params, hphase⟩ := hphase
      exact Or.inr (hdone params hphase)
    · rcases h.stored with ⟨x, hx, params, hp⟩ | hst
      · -- the request between GoTrue and its rotation is another one
        obtain ⟨j, hj⟩ := List.getElem?_of_mem hx
        have hne : i ≠ j := by
          rintro rfl
          cases hi.symm.trans hj
          exact hphase ⟨params, hp⟩
        refine Or.inl ⟨x, List.mem_of_getElem? (i := j) ?_, params, hp⟩
        rw [List.getElem?_set_ne hne, hj]
      · refine Or.inr fun k row' hk hs' hlive' => ?_
        obtain ⟨row, hs, hl⟩ := hlive k row' hs' hlive'
        have hrec := congrFun hrecords k
        rw [env.records_some hs', env.records_some hs] at hrec
        have htok := congrArg Custody.Record.token (Option.some.inj hrec)
        simp only [hst k row hk hs hl] at htok
        exact AdapterEnv.decrypt_of_record htok

/-- Where the session of the open record is not valid, no session is. -/
private theorem RefreshState.stored_of_open {accepted : String} {issued : List String}
    (h : Custody own (env.records s.auth.store) accepted issued) {k : Bytea} (hk : own k) {c : Custody.Record String}
    (hc : env.records s.auth.store k = some c) (hopen : c.closed = false)
    (hdead : ∀ row, s.auth.store.sessionOf k = some row → ¬ row.Live s.clock) : s.Stored env own := by
  intro k' row hk' hs hl
  have hopen' : row.revokedAt.isSome = false := by
    rw [hl.1]
    rfl
  have heq := h.open_unique hk' hk (env.records_some hs) hc hopen' hopen
  subst heq
  exact absurd hl (hdead row hs)

/-- A request that ends before its rotation, in a step that strands no session. -/
private theorem Linked.stored_of_ended {idleTtlSeconds : Int} {s' : RefreshState} {a : RefreshAction}
    {params : RotateParams} {response : AuthResponse} (h : Linked env own s)
    (hstrand : ¬ Strands env idleTtlSeconds s a)
    (hstep : (refreshMachine env idleTtlSeconds).step s a = some s')
    (hi : s.auth.requests[i]? = some (r, .rotating params))
    (hi' : s'.auth.requests[i]? = some (r, .answered response)) (hstore : s'.auth.store = s.auth.store) :
    s'.Stored env own := by
  obtain ⟨-, hown, -, -, ⟨c, hc, hopen⟩, -⟩ := h.requests _ (List.mem_of_getElem? hi)
  have hcustody := h.custody
  rw [← hstore] at hc hcustody
  refine RefreshState.stored_of_open hcustody hown hc hopen fun row hs hl => hstrand (Or.inr ?_)
  exact ⟨i, r, params, response, s', hi, hstep, hi', row, hs, hl⟩

/-- A request of the login arrives. -/
private theorem Linked.arrive (h : Linked env own s) (r : AuthRequest) (hroute : r.route = .refresh)
    (hown : own (env.hashSessionToken r.sessionToken)) :
    Linked env own { s with auth := { s.auth with requests := s.auth.requests ++ [(r, r.enter)] } } := by
  have hrot : ∀ params, r.enter ≠ .rotating params := by
    intro params heq
    rcases r.enter_cases with ⟨e, he⟩ | he
    · cases he.symm.trans heq
    · cases he.symm.trans heq
  have hold : ∀ {j : Nat} {r' : AuthRequest} {params : RotateParams},
      (s.auth.requests ++ [(r, r.enter)])[j]? = some (r', .rotating params) →
      s.auth.requests[j]? = some (r', .rotating params) := by
    intro j r' params hj
    rw [List.getElem?_append] at hj
    split at hj
    · exact hj
    · have heq := List.mem_singleton.1 (List.mem_of_getElem? hj)
      exact absurd (Prod.mk.inj heq).2.symm (hrot params)
  refine ⟨h.custody, fun x hx => ?_, fun hj hl => h.alone (hold hj) (hold hl), ?_⟩
  · rcases List.mem_append.1 hx with hx | hx
    · exact h.requests x hx
    · cases List.mem_singleton.1 hx
      refine ⟨hroute, hown, ?_⟩
      rcases r.enter_cases with ⟨e, he⟩ | he
      · exact he ▸ trivial
      · exact he ▸ trivial
  · rcases h.stored with ⟨x, hx, hp⟩ | hst
    · exact Or.inl ⟨x, List.mem_append_left _ hx, hp⟩
    · exact Or.inr hst

/-- GoTrue takes the token of the session back. -/
private theorem Linked.issue (h : Linked env own s) {current : ActiveSessionDTO}
    (hi : s.auth.requests[i]? = some (r, .refreshing current)) (hpresents : current.gotrueRefreshToken = s.accepted)
    {params : RotateParams} (hnew : params.refreshToken ∉ s.issued) (hold : params.oldSessionToken = r.sessionToken)
    (now : Int) :
    Linked env own {
      auth := { s.auth with requests := s.auth.requests.set i (r, .rotating params) }
      clock := now
      accepted := params.refreshToken
      issued := params.refreshToken :: s.issued } := by
  obtain ⟨hroute, hown, c, hc, htok⟩ := h.requests _ (List.mem_of_getElem? hi)
  rw [hpresents] at htok
  -- a session stores the accepted token, so no other request holds it
  have hidle : ∀ x ∈ s.auth.requests, ∀ params, x.2 ≠ .rotating params := by
    intro x hx params' hp
    obtain ⟨-, -, hholds⟩ := h.requests x hx
    rw [hp] at hholds
    exact hholds.2.2.2 _ c hown hc htok
  have hother : ∀ {j : Nat} {r' : AuthRequest} {params' : RotateParams},
      (s.auth.requests.set i (r, AuthPhase.rotating params))[j]? = some (r', .rotating params') → i = j := by
    intro j r' params' hj
    rcases getElem?_set_cases hj with ⟨hij, -⟩ | ⟨-, hj⟩
    · exact hij
    · exact absurd rfl (hidle _ (List.mem_of_getElem? hj) params')
  refine ⟨h.custody.issue hnew, fun x hx => ?_, fun hj hl => (hother hj).symm.trans (hother hl), Or.inl ?_⟩
  · rcases List.mem_or_eq_of_mem_set hx with hx | rfl
    · obtain ⟨hroute', hown', hholds⟩ := h.requests x hx
      refine ⟨hroute', hown', ?_⟩
      cases hp : x.2 with
      | rotating params' => exact absurd hp (hidle x hx params')
      | _ => rw [hp] at hholds; exact hholds
    · exact ⟨hroute, hown, hold, rfl, ⟨c, hc, h.custody.open_of_accepted hown hc htok⟩, h.custody.pending_of_new hnew⟩
  · exact ⟨_, List.mem_set (List.getElem?_eq_some_iff.1 hi).1 _, params, rfl⟩

/-- The new token is put into a new session. -/
private theorem Linked.rotate (h : Linked env own s) (henv : env.Lawful) {params : RotateParams}
    (hi : s.auth.requests[i]? = some (r, .rotating params)) {old : UserSession} {db₁ : Database} {draws : Draws}
    {now : Int} (hs : s.auth.store.sessionOf (env.hashSessionToken params.oldSessionToken) = some old)
    (hins : s.auth.store.insertSession ((env.rotateArgs now draws params).row draws.rowId now old) = .ok db₁)
    (response : AuthResponse) (rotations : List (String × String)) :
    Linked env own { s with
      auth := ⟨db₁.updateSessions (.revoke now) (·.id == old.id), s.auth.requests.set i (r, .answered response),
        rotations⟩
      clock := now } := by
  obtain ⟨hroute, hown, hold, hacc, ⟨c, hc, hopen⟩, hpending⟩ := h.requests _ (List.mem_of_getElem? hi)
  have hrecords := AdapterEnv.records_rotate henv hs hins
  rw [hold] at hs hrecords
  cases (env.records_some hs).symm.trans hc
  rw [hacc] at hrecords
  have hidle : ∀ {j : Nat} {r' : AuthRequest} {params' : RotateParams},
      (s.auth.requests.set i (r, AuthPhase.answered response))[j]? ≠ some (r', .rotating params') := by
    intro j r' params' hj
    rcases getElem?_set_cases hj with ⟨-, heq⟩ | ⟨hne, hj⟩
    · cases (Prod.mk.inj heq).2
    · exact hne (h.alone hi hj)
  refine ⟨hrecords ▸ h.custody.replace hpending hown hc hopen, fun x hx => ?_, fun hj _ => absurd hj hidle, Or.inr ?_⟩
  · obtain ⟨j, hj⟩ := List.getElem?_of_mem hx
    rcases List.mem_or_eq_of_mem_set hx with hx | rfl
    · obtain ⟨hroute', hown', hholds⟩ := h.requests x hx
      refine ⟨hroute', hown', ?_⟩
      cases hp : x.2 with
      | refreshing current =>
        rw [hp] at hholds
        obtain ⟨c', hc', htok⟩ := hholds
        -- its session is still there, closed perhaps
        show ∃ c, env.records _ _ = some c ∧ _
        rw [hrecords]
        unfold Custody.moved
        split
        · rename_i heq
          rw [heq, hc] at hc'
          cases hc'
          exact ⟨_, rfl, htok⟩
        · split
          · rename_i heq
            have hnone := Database.sessionOf_of_insert hins
            rw [heq, AdapterEnv.records] at hc'
            have hnone : s.auth.store.sessionOf (env.hashSessionToken params.newSessionToken) = none := hnone
            rw [hnone] at hc'
            cases hc'
          · exact ⟨c', hc', htok⟩
      | rotating params' =>
        have hx' : x = (x.1, AuthPhase.rotating params') := Prod.ext rfl hp
        exact absurd (hj.trans (congrArg some hx')) hidle
      | _ => rw [hp] at hholds; exact hholds
    · exact ⟨hroute, hown, trivial⟩
  · intro k row hk hs' hl
    have hrow := env.records_some hs'
    have hclosed : row.revokedAt.isSome = false := by
      rw [hl.1]
      rfl
    rw [hrecords] at hrow
    exact AdapterEnv.decrypt_of_record (h.custody.moved_open hown hc hopen hk hrow hclosed)

end Invariant

/-! ### Runs -/

/-- A call is served, or it raises and the statement may have run. -/
private theorem SessionStore.meeting_cases {σ : Type} (S : SessionStore σ) (outcome : CallOutcome) (store : σ)
    (step : RepositoryStep) :
    (S.meeting outcome).exec store step = S.exec store step ∨
    ∃ e, ((S.meeting outcome).exec store step).2 = .raised e ∧
      (((S.meeting outcome).exec store step).1 = store ∨
        ((S.meeting outcome).exec store step).1 = (S.exec store step).1) := by
  cases outcome with
  | served => exact Or.inl rfl
  | refused e => exact Or.inr ⟨e, rfl, Or.inl rfl⟩
  | answerLost e => exact Or.inr ⟨e, rfl, Or.inr rfl⟩

/-- What a call that does not rotate leads to. -/
private theorem AuthPhase.resume_holds (own : Bytea → Prop) {records : Bytea → Option (Custody.Record String)}
    (accepted : String) {r : AuthRequest} {h : Bytea} {phase : AuthPhase} {answer : RepositoryAnswer}
    (hphase : phase = .resolving ∨ (∃ dto, phase = .touching dto) ∨ phase = .reading) (hroute : r.route = .refresh)
    (hread : phase = .reading → ∀ dto, answer = .session dto →
      ∃ c, records h = some c ∧ c.token = some dto.gotrueRefreshToken) :
    (phase.resume r.route answer).Holds own records accepted r h ∧
      ∀ params, phase.resume r.route answer ≠ .rotating params := by
  rw [hroute]
  rcases hphase with rfl | ⟨dto, rfl⟩ | rfl
  · cases answer <;> exact ⟨trivial, nofun⟩
  · cases answer <;> exact ⟨trivial, nofun⟩
  · cases answer with
    | session dto => exact ⟨hread rfl dto rfl, nofun⟩
    | raised e =>
      simp only [resume, reduceCtorEq, false_and, if_false]
      exact ⟨trivial, nofun⟩
    | _ => exact ⟨trivial, nofun⟩

section Run

variable {env : AdapterEnv} {own : Bytea → Prop} {idleTtlSeconds : Int} {s s' : RefreshState}

/-- A call of a refresh that does not rotate moves no token, and makes no session valid. -/
private theorem AdapterEnv.call_keeps (henv : env.Lawful) {r : AuthRequest} {phase : AuthPhase}
    {call : RepositoryCall} (hphase : phase = .resolving ∨ (∃ dto, phase = .touching dto) ∨ phase = .reading)
    (hc : phase.nextCall idleTtlSeconds r.sessionToken = some call) (outcome : CallOutcome) {db store : Database}
    {clock now : Int} (hnow : clock ≤ now) {id : Uuid} {draws : Draws} {answer : RepositoryAnswer}
    (hexec : (env.store.meeting outcome).exec db ⟨now, call, id, draws⟩ = (store, answer)) :
    env.records store = env.records db ∧
    (∀ k row', store.sessionOf k = some row' → row'.Live now → ∃ row, db.sessionOf k = some row ∧ row.Live clock) ∧
    (phase = .reading → ∀ dto, answer = .session dto →
      ∃ c, env.records db (env.hashSessionToken r.sessionToken) = some c ∧
        c.token = some dto.gotrueRefreshToken) := by
  have hsame : ∀ k row', db.sessionOf k = some row' → row'.Live now →
      ∃ row, db.sessionOf k = some row ∧ row.Live clock :=
    fun k row' hs hl => ⟨row', hs, hl.earlier hnow⟩
  have hstore : store = db ∨ store = (env.exec db now draws call).1 := by
    rcases env.store.meeting_cases outcome db ⟨now, call, id, draws⟩ with heq | ⟨e, -, heq | heq⟩
    · exact Or.inr (congrArg Prod.fst (hexec.symm.trans heq))
    · exact Or.inl ((congrArg Prod.fst hexec).symm.trans heq)
    · exact Or.inr ((congrArg Prod.fst hexec).symm.trans heq)
  have hanswer : ∀ dto, answer = .session dto → (env.exec db now draws call).2 = .session dto := by
    rintro dto rfl
    rcases env.store.meeting_cases outcome db ⟨now, call, id, draws⟩ with heq | ⟨e, he, -⟩
    · exact congrArg Prod.snd (heq.symm.trans hexec)
    · cases he.symm.trans (congrArg Prod.snd hexec)
  have hget : call = .get r.sessionToken → store = db ∧ ∀ dto, answer = .session dto →
      ∃ c, env.records db (env.hashSessionToken r.sessionToken) = some c ∧ c.token = some dto.gotrueRefreshToken := by
    rintro rfl
    refine ⟨?_, fun dto hdto => ?_⟩
    · rcases hstore with h | h
      · exact h
      · exact h.trans (get_cases db now draws r.sessionToken).1
    · obtain ⟨row, hs, -, -, hr⟩ := get_session henv (hanswer dto hdto)
      refine ⟨_, env.records_some hs, ?_⟩
      rw [hr]
      rfl
  -- `get`, `touch` and `get` again: only the touch writes, and it slides an expiry
  rcases hphase with rfl | ⟨dto, rfl⟩ | rfl
  · obtain ⟨rfl, -⟩ := hget (Option.some.inj hc).symm
    exact ⟨rfl, hsame, nofun⟩
  · cases hc
    refine ⟨?_, ?_, nofun⟩
    · rcases hstore with rfl | rfl
      · rfl
      · rcases touch_cases env db now draws r.sessionToken idleTtlSeconds with h | ⟨row, hs, -, h⟩
        · rw [h]
        · rw [h, records_slide hs]
    · rcases hstore with rfl | rfl
      · exact hsame
      · rcases touch_cases env db now draws r.sessionToken idleTtlSeconds with h | ⟨row, hs, hlive, h⟩
        · rw [h]
          exact hsame
        · intro k row' hs' hl'
          rw [h, Database.sessionOf_update_id hs] at hs'
          split at hs'
          · rename_i hk
            exact ⟨row, hk ▸ hs, hlive.earlier hnow⟩
          · exact hsame k row' hs' hl'
  · obtain ⟨rfl, hread⟩ := hget (Option.some.inj hc).symm
    exact ⟨rfl, hsame, fun _ => hread⟩

private theorem Linked.step (henv : env.Lawful) (h : Linked env own s) {a : RefreshAction}
    (harrival : ∀ r ∈ a.arrival, r.route = .refresh ∧ own (env.hashSessionToken r.sessionToken))
    (hstrand : ¬ Strands env idleTtlSeconds s a) (hstep : (refreshMachine env idleTtlSeconds).step s a = some s') :
    Linked env own s' := by
  have hlater : ∀ {now : Int}, s.clock ≤ now → ∀ k row', s.auth.store.sessionOf k = some row' → row'.Live now →
      ∃ row, s.auth.store.sessionOf k = some row ∧ row.Live s.clock :=
    fun hnow k row' hs hl => ⟨row', hs, hl.earlier hnow⟩
  have hmoved : ∀ {i : Nat} {r : AuthRequest} {phase : AuthPhase} (phase' : AuthPhase),
      s.auth.requests[i]? = some (r, phase) → (s.auth.requests.set i (r, phase'))[i]? = some (r, phase') :=
    fun phase' hi => List.getElem?_set_self (List.getElem?_eq_some_iff.1 hi).1
  cases refreshMachine_step.1 hstep with
  | arrive r =>
    obtain ⟨hroute, hown⟩ := harrival r rfl
    exact h.arrive r hroute hown
  | @call i r phase call now id draws outcome store answer hnow hi hc hexec =>
    obtain ⟨hroute, hown, hholds⟩ := h.requests _ (List.mem_of_getElem? hi)
    -- before the rotation a refresh moves no token
    have hkeep : phase = .resolving ∨ (∃ dto, phase = .touching dto) ∨ phase = .reading →
        Linked env own { s with
          auth := ⟨store, s.auth.requests.set i (r, phase.resume r.route answer),
            call.rotation answer ++ s.auth.rotations⟩
          clock := now } := by
      intro hphase
      obtain ⟨hrecords, hlive, hread⟩ := AdapterEnv.call_keeps henv hphase hc outcome hnow hexec
      obtain ⟨hholds', hrot⟩ := AuthPhase.resume_holds own s.accepted hphase hroute hread
      refine h.move hi hrecords hlive _ hholds' hrot fun params hp => ?_
      rcases hphase with rfl | ⟨dto, rfl⟩ | rfl <;> cases hp
    cases phase with
    | resolving => exact hkeep (Or.inl rfl)
    | touching dto => exact hkeep (Or.inr (Or.inl ⟨dto, rfl⟩))
    | reading => exact hkeep (Or.inr (Or.inr rfl))
    | refreshing current | answered response => cases hc
    | loggingOut current | revoking => exact hholds.elim
    | rotating params =>
      cases hc
      have hcall := AdapterEnv.rotate_cases henv s.auth.store now draws params
      have hmeets := env.store.meeting_cases outcome s.auth.store ⟨now, .rotate params, id, draws⟩
      rw [hexec] at hmeets
      have hanswer : (∃ dto, answer = .created dto) ∨ ∃ e, answer = .raised e := by
        rcases hmeets with heq | ⟨e, he, -⟩
        · have heq : (store, answer) = env.exec s.auth.store now draws (.rotate params) := heq
          rcases hcall with ⟨-, e, he⟩ | ⟨old, db₁, dto, -, -, -, he⟩
          · exact Or.inr ⟨e, (congrArg Prod.snd heq).trans he⟩
          · exact Or.inl ⟨dto, (congrArg Prod.snd heq).trans (congrArg Prod.snd he)⟩
        · exact Or.inr ⟨e, he⟩
      have hresume : ∃ response, (AuthPhase.rotating params).resume r.route answer = .answered response := by
        rcases hanswer with ⟨dto, rfl⟩ | ⟨e, rfl⟩
        · exact ⟨_, rfl⟩
        · exact ⟨_, rfl⟩
      obtain ⟨response, hresume⟩ := hresume
      have hstore : store = s.auth.store ∨ store = (env.exec s.auth.store now draws (.rotate params)).1 := by
        rcases hmeets with heq | ⟨-, -, heq | heq⟩
        · exact Or.inr (congrArg Prod.fst heq)
        · exact Or.inl heq
        · exact Or.inr heq
      -- no step strands a set, so where the rotation stores nothing, the accepted token is stored
      have hunmoved : store = s.auth.store → Linked env own { s with
          auth := ⟨store, s.auth.requests.set i (r, (AuthPhase.rotating params).resume r.route answer),
            (RepositoryCall.rotate params).rotation answer ++ s.auth.rotations⟩
          clock := now } := by
        rintro rfl
        rw [hresume] at hstep ⊢
        exact h.move hi rfl (hlater hnow) _ trivial nofun fun _ _ =>
          h.stored_of_ended hstrand hstep hi (hmoved _ hi) rfl
      rcases hstore with hsame | heq
      · exact hunmoved hsame
      · rcases hcall with ⟨hsame, -⟩ | ⟨old, db₁, dto, hs, -, hins, he⟩
        · exact hunmoved (heq.trans hsame)
        · rw [hresume, heq, he]
          exact h.rotate henv hi hs hins response _
  | @refused i r phase phase' now token hnow hi hg =>
    obtain ⟨-, -, hholds⟩ := h.requests _ (List.mem_of_getElem? hi)
    cases phase with
    | refreshing current =>
      cases hg
      exact h.move hi rfl (hlater hnow) _ trivial nofun nofun
    | loggingOut current => exact hholds.elim
    | _ => cases hg
  | @issued i r phase phase' now outcome set token hnow hset hi hpresents hnew hg =>
    cases phase with
    | refreshing current =>
      cases outcome with
      | issues set' =>
        cases hset
        cases hg
        exact h.issue hi (Option.some.inj hpresents) hnew rfl now
      | answerLost set' => exact absurd (Or.inl ⟨i, now, set', token, rfl⟩) hstrand
      | refuses => cases hset
    | _ => cases hpresents
  | @abort i r phase hi hne =>
    -- likewise for a request that ends
    refine h.move hi rfl (hlater (Int.le_refl _)) _ ?_ ?_ fun params hp => ?_
    · trivial
    · nofun
    · subst hp
      exact h.stored_of_ended hstrand hstep hi (hmoved _ hi) rfl

/-- The login when the run begins. -/
private theorem Linked.initial {db : Database} {login : Bytea} {row : UserSession}
    (hs : db.sessionOf login = some row)
    (hrev : row.revokedAt = none) {token : String} (htoken : env.decrypt row.gotrueRefreshToken = .ok token)
    (clock : Int) (issued : List String) :
    Linked env (db.OfLogin login) (.init db clock token issued) := by
  have honly : ∀ {h : Bytea} {c : Custody.Record String}, db.OfLogin login h → env.records db h = some c →
      h = login ∧ c = ⟨false, some token⟩ := by
    intro h c hown hc
    rcases hown with hnone | rfl
    · rw [AdapterEnv.records, hnone] at hc
      cases hc
    · rw [env.records_some hs, hrev, htoken] at hc
      cases hc
      exact ⟨rfl, rfl⟩
  refine ⟨⟨List.mem_cons_self, ?_, ?_, ?_, ?_⟩, fun x hx => absurd hx List.not_mem_nil, fun hi _ => ?_, Or.inr ?_⟩
  · intro h c hown hc
    obtain ⟨-, rfl⟩ := honly hown hc
    exact ⟨token, List.mem_cons_self, rfl⟩
  · intro h h' c c' hown hown' hc hc' _ _
    exact (honly hown hc).1.trans (honly hown' hc').1.symm
  · intro h c hown hc hcl
    obtain ⟨-, rfl⟩ := honly hown hc
    cases hcl
  · intro h hc
    exact Or.inl (Option.map_eq_none_iff.1 hc)
  · exact absurd (List.mem_of_getElem? hi) List.not_mem_nil
  · intro h row' hown hs' _
    obtain ⟨-, hc⟩ := honly hown (env.records_some hs')
    exact AdapterEnv.decrypt_of_record (congrArg Custody.Record.token hc)

/-- Whatever fails in the refreshes of a login, when all of them have been answered its valid session stores the token
that GoTrue accepts, if no step has stranded a valid session. -/
theorem refresh_never_strands (henv : env.Lawful) {db : Database} {login : Bytea} {row : UserSession}
    (hs : db.sessionOf login = some row) (hrev : row.revokedAt = none) {token : String}
    (htoken : env.decrypt row.gotrueRefreshToken = .ok token) {clock : Int} {issued : List String}
    {as : List RefreshAction}
    (harrivals : ∀ a ∈ as, ∀ r ∈ a.arrival, r.route = .refresh ∧
      db.OfLogin login (env.hashSessionToken r.sessionToken))
    (hrun : (refreshMachine env idleTtlSeconds).run (.init db clock token issued) as = some s)
    (hstrand : (refreshMachine env idleTtlSeconds).Along (fun s a => ¬ Strands env idleTtlSeconds s a)
      (.init db clock token issued) as)
    (hdone : s.AllAnswered) :
    ∀ h row', db.OfLogin login h → s.auth.store.sessionOf h = some row' → ∀ now, s.clock ≤ now → row'.Live now →
      env.decrypt row'.gotrueRefreshToken = .ok s.accepted := by
  have hlinked : Linked env (db.OfLogin login) s := by
    have harrivals : (refreshMachine env idleTtlSeconds).Along (fun _ a => ∀ r ∈ a.arrival,
        r.route = .refresh ∧ db.OfLogin login (env.hashSessionToken r.sessionToken))
          (.init db clock token issued) as :=
      .of_forall (fun a ha _ => harrivals a ha) _
    refine Machine.along_induction ?_ hrun (hstrand.and harrivals) (Linked.initial hs hrev htoken clock issued)
    rintro s a s' hs ⟨hstrand, harrival⟩ hstep
    exact hs.step henv harrival hstrand hstep
  intro h row' hown hs' now hnow hl
  rcases hlinked.stored with ⟨x, hx, params, hp⟩ | hst
  · obtain ⟨response, hr⟩ := hdone x hx
    cases hp.symm.trans hr
  · exact hst h row' hown hs' (hl.earlier hnow)

end Run

/-! ### One refresh -/

/-- A refresh up to its call of GoTrue. -/
def refreshCalls (r : AuthRequest) (now : Int) (id : Uuid) (draws : Draws) : List RefreshAction :=
  [.arrive r, .call 0 now id draws .served, .call 0 now id draws .served, .call 0 now id draws .served]

/-- What a refresh asks of the repository once GoTrue has answered. -/
def rotateParams (r : AuthRequest) (idleTtlSeconds now : Int) (newSessionToken : String) (set : GoTrueTokenSet) :
    RotateParams where
  oldSessionToken := r.sessionToken
  newSessionToken := newSessionToken
  accessToken := set.accessToken
  refreshToken := set.refreshToken
  gotrueExpiresAt := some (now + timedelta set.expiresIn)
  idleTtlSeconds := idleTtlSeconds

/-- A login with one refresh. -/
abbrev RefreshState.one (store : Database) (r : AuthRequest) (phase : AuthPhase) (clock : Int) (accepted : String)
    (issued : List String) : RefreshState := ⟨⟨store, [(r, phase)], []⟩, clock, accepted, accepted :: issued⟩

/-- A login with two refreshes. -/
abbrev RefreshState.two (store : Database) (r : AuthRequest) (phase : AuthPhase) (r' : AuthRequest)
    (phase' : AuthPhase) (clock : Int) (accepted : String) (issued : List String) : RefreshState :=
  ⟨⟨store, [(r, phase), (r', phase')], []⟩, clock, accepted, accepted :: issued⟩

/-- A refresh request with a CSRF token and a session cookie. -/
structure AuthRequest.WellFormed (r : AuthRequest) : Prop where
  route : r.route = .refresh
  csrf : verifyCsrf r.csrfHeader r.csrfCookie = true
  cookie : r.sessionToken ≠ ""

private theorem not_strands_of_idle {env : AdapterEnv} {idleTtlSeconds : Int} {s : RefreshState} {a : RefreshAction}
    (hidle : ∀ x ∈ s.auth.requests, ∀ params, x.2 ≠ .rotating params)
    (ha : ∀ i now set token, a ≠ .refresh i now (.answerLost set) token) : ¬ Strands env idleTtlSeconds s a := by
  rintro (⟨i, now, set, token, h⟩ | ⟨i, r, params, response, s', hi, -⟩)
  · exact ha i now set token h
  · exact hidle _ (List.mem_of_getElem? hi) params rfl

section OneRefresh

variable {env : AdapterEnv} {idleTtlSeconds : Int} {r : AuthRequest} {db : Database} {row : UserSession} {now : Int}

private theorem AuthRequest.WellFormed.enter (h : r.WellFormed) : r.enter = .resolving := by
  unfold AuthRequest.enter
  rw [if_neg, if_neg h.cookie]
  rintro ⟨-, hc⟩
  exact hc h.csrf

/-- The session after the touch of the refresh. -/
def slid (env : AdapterEnv) (db : Database) (row : UserSession) (now idleTtlSeconds : Int) : Database :=
  db.updateSessions (.slide now (env.intervalLength now idleTtlSeconds)) (·.id == row.id)

private theorem slid_session (env : AdapterEnv) {h : Bytea} (hs : db.sessionOf h = some row)
    (now idleTtlSeconds : Int) : (slid env db row now idleTtlSeconds).sessionOf h =
      some ((SessionUpdate.slide now (env.intervalLength now idleTtlSeconds)).set row) := by
  rw [slid, Database.sessionOf_update_id hs, if_pos rfl]

private theorem slid_live (henv : env.Lawful) (hlive : row.Live now) (httl : 0 < idleTtlSeconds) :
    ((SessionUpdate.slide now (env.intervalLength now idleTtlSeconds)).set row).Live now := by
  obtain ⟨hrev, habs, -⟩ := hlive
  refine ⟨hrev, habs, ?_⟩
  show now < min (now + env.intervalLength now idleTtlSeconds) row.absoluteExpiresAt
  have hpos := henv.intervalLength_pos now idleTtlSeconds httl
  omega

/-- The next call of the one refresh. -/
private theorem RefreshState.one_call (env : AdapterEnv) (idleTtlSeconds : Int) {store store' : Database}
    (phase : AuthPhase) {phase' : AuthPhase} {call : RepositoryCall} {answer : RepositoryAnswer}
    (outcome : CallOutcome) (id : Uuid) (draws : Draws)
    (hc : phase.nextCall idleTtlSeconds r.sessionToken = some call)
    (hexec : (env.store.meeting outcome).exec store ⟨now, call, id, draws⟩ = (store', answer))
    (hphase : phase.resume r.route answer = phase') (accepted : String) (issued : List String) :
    (refreshMachine env idleTtlSeconds).step (.one store r phase now accepted issued) (.call 0 now id draws outcome) =
      some ⟨⟨store', [(r, phase')], call.rotation answer⟩, now, accepted, accepted :: issued⟩ := by
  have hi : [(r, phase)][0]? = some (r, phase) := rfl
  have hstep : RefreshStep env idleTtlSeconds (.one store r phase now accepted issued) _ _ :=
    .call id draws outcome (Int.le_refl now) hi hc hexec
  rw [refreshMachine_step.2 hstep, hphase]
  show some (RefreshState.mk ⟨store', [(r, phase')], call.rotation answer ++ []⟩ _ _ _) = _
  rw [List.append_nil]

/-- The refresh of a valid session gets to GoTrue. -/
private theorem refresh_reaches_gotrue (henv : env.Lawful) (hr : r.WellFormed)
    (hs : db.sessionOf (env.hashSessionToken r.sessionToken) = some row) (hlive : row.Live now)
    (httl : 0 < idleTtlSeconds) {access token : String} (haccess : env.decrypt row.gotrueAccessToken = .ok access)
    (hrefresh : env.decrypt row.gotrueRefreshToken = .ok token) (id : Uuid) (draws : Draws) (issued : List String)
    (rest : List RefreshAction) :
    ∃ s current, current.gotrueRefreshToken = token ∧
      s = .one (slid env db row now idleTtlSeconds) r (.refreshing current) now token issued ∧
      (∀ t, (refreshMachine env idleTtlSeconds).run s rest = some t →
        (refreshMachine env idleTtlSeconds).run (.init db now token issued) (refreshCalls r now id draws ++ rest) =
          some t) ∧
      ((refreshMachine env idleTtlSeconds).Along (fun s a => ¬ Strands env idleTtlSeconds s a) s rest →
        (refreshMachine env idleTtlSeconds).Along (fun s a => ¬ Strands env idleTtlSeconds s a)
          (.init db now token issued) (refreshCalls r now id draws ++ rest)) := by
  have hs' := slid_session env hs now idleTtlSeconds
  obtain ⟨dto, hget⟩ := AdapterEnv.exec_get_live henv hs hlive haccess hrefresh draws
  obtain ⟨idle, htouch⟩ := AdapterEnv.exec_touch_live henv hs hlive idleTtlSeconds draws
  obtain ⟨current, hread⟩ := AdapterEnv.exec_get_live henv hs' (slid_live henv hlive httl) haccess hrefresh draws
  obtain ⟨row', hrow', -, -, htoken⟩ := AdapterEnv.get_session henv (congrArg Prod.snd hread)
  cases hs'.symm.trans hrow'
  have h₁ : (refreshMachine env idleTtlSeconds).step (.init db now token issued) (.arrive r) =
      some (.one db r .resolving now token issued) := by
    rw [refreshMachine_step.2 (.arrive r), hr.enter]
    rfl
  have hreading : (AuthPhase.touching dto).resume r.route (.touched idle) = .reading := by
    rw [hr.route]
    rfl
  have hrefreshing : AuthPhase.reading.resume r.route (.session current) = .refreshing current := by
    rw [hr.route]
    rfl
  have htouching : AuthPhase.resolving.resume r.route (.session dto) = .touching dto := rfl
  -- `get`, `touch` and the `get` of the route
  have h₂ := RefreshState.one_call env idleTtlSeconds .resolving .served id draws rfl hget htouching token issued
  have h₃ := RefreshState.one_call env idleTtlSeconds (.touching dto) .served id draws rfl htouch
      hreading token issued
  have h₄ := RefreshState.one_call env idleTtlSeconds .reading .served id draws rfl hread hrefreshing token issued
  have hidle : ∀ {store : Database} {phase : AuthPhase} {a : RefreshAction}, (∀ params, phase ≠ .rotating params) →
      (∀ i now set token, a ≠ .refresh i now (.answerLost set) token) →
      ¬ Strands env idleTtlSeconds (.one store r phase now token issued) a := by
    intro store phase a hp ha
    refine not_strands_of_idle (fun x hx params hx' => ?_) ha
    cases List.mem_singleton.1 hx
    exact hp params hx'
  refine ⟨_, current, ?_, rfl, fun t ht => ?_, fun hrest => ?_⟩
  · exact Except.ok.inj (htoken.symm.trans hrefresh)
  · have h₃₄ := Machine.run_cons.2 ⟨_, h₃, Machine.run_cons.2 ⟨_, h₄, ht⟩⟩
    exact Machine.run_cons.2 ⟨_, h₁, Machine.run_cons.2 ⟨_, h₂, h₃₄⟩⟩
  · refine .cons (not_strands_of_idle (fun x hx => absurd hx List.not_mem_nil) nofun) h₁ ?_
    refine .cons (hidle nofun nofun) h₂ (.cons (hidle nofun nofun) h₃ (.cons (hidle nofun nofun) h₄ hrest))

/-- GoTrue issues a token to the refresh, whose answer arrives or not. -/
private theorem RefreshState.one_issued (env : AdapterEnv) (idleTtlSeconds : Int) (store : Database)
    {current : ActiveSessionDTO} {token : String} (hcurrent : current.gotrueRefreshToken = token)
    {issued : List String}
    {set : GoTrueTokenSet}
    (hnew : set.refreshToken ∉ token :: issued) (newSessionToken : String) (outcome : RefreshOutcome)
    (hset : outcome.issued = some set) {phase : AuthPhase}
    (hg : r.afterGoTrue idleTtlSeconds now newSessionToken (.refreshing current) outcome.reply = some phase) :
    (refreshMachine env idleTtlSeconds).step
        (.one store r (.refreshing current) now token issued) (.refresh 0 now outcome newSessionToken) =
      some (.one store r phase now set.refreshToken (token :: issued)) := by
  have hi : [(r, AuthPhase.refreshing current)][0]? = some (r, .refreshing current) := rfl
  exact refreshMachine_step.2 (.issued (Int.le_refl now) hset hi (congrArg some hcurrent) hnew hg)

/-- A valid session is stranded when the rotation of its refresh fails, and when the answer of GoTrue is lost. -/
theorem refresh_stranded (henv : env.Lawful) (hr : r.WellFormed)
    (hs : db.sessionOf (env.hashSessionToken r.sessionToken) = some row) (hlive : row.Live now)
    (httl : 0 < idleTtlSeconds) {access token : String} (haccess : env.decrypt row.gotrueAccessToken = .ok access)
    (hrefresh : env.decrypt row.gotrueRefreshToken = .ok token) {issued : List String} (set : GoTrueTokenSet)
    (hnew : set.refreshToken ∉ token :: issued) (id : Uuid) (draws : Draws) (newSessionToken : String)
    (e : RepositoryError) :
    (∃ s, (refreshMachine env idleTtlSeconds).run (.init db now token issued) (refreshCalls r now id draws ++
        [.refresh 0 now (.issues set) newSessionToken, .call 0 now id draws (.refused e)]) = some s ∧
      s.Stranded env r.sessionToken) ∧
    ∃ s, (refreshMachine env idleTtlSeconds).run (.init db now token issued) (refreshCalls r now id draws ++
        [.refresh 0 now (.answerLost set) newSessionToken]) = some s ∧ s.Stranded env r.sessionToken := by
  -- the session keeps the token that GoTrue has replaced
  have hkept : ∀ (response : AuthResponse), RefreshState.Stranded env
      (.one (slid env db row now idleTtlSeconds) r (.answered response) now set.refreshToken (token :: issued))
      r.sessionToken := by
    intro response
    refine ⟨fun x hx => ?_, _, slid_session env hs _ _, slid_live henv hlive httl, fun hstored => hnew ?_⟩
    · cases List.mem_singleton.1 hx
      exact ⟨response, rfl⟩
    · have heq : token = set.refreshToken := Except.ok.inj (hrefresh.symm.trans hstored)
      rw [← heq]
      exact List.mem_cons_self
  refine ⟨?_, ?_⟩
  · obtain ⟨_, current, hcurrent, rfl, hrun, -⟩ := refresh_reaches_gotrue henv hr hs hlive httl haccess
      hrefresh id draws issued [.refresh 0 now (.issues set) newSessionToken, .call 0 now id draws (.refused e)]
    have hrotating : r.afterGoTrue idleTtlSeconds now newSessionToken (.refreshing current) (.tokens set) =
        some (.rotating (rotateParams r idleTtlSeconds now newSessionToken set)) := rfl
    have hissue := RefreshState.one_issued env idleTtlSeconds (slid env db row now idleTtlSeconds) hcurrent hnew
      newSessionToken (.issues set) rfl hrotating
    have hrefused : (env.store.meeting (.refused e)).exec (slid env db row now idleTtlSeconds)
        ⟨now, .rotate (rotateParams r idleTtlSeconds now newSessionToken set), id, draws⟩ =
          (slid env db row now idleTtlSeconds, .raised e) := rfl
    have hraised : (AuthPhase.rotating (rotateParams r idleTtlSeconds now newSessionToken set)).resume r.route
        (.raised e) = .raise (.repository e) := rfl
    have hfail := RefreshState.one_call env idleTtlSeconds _ _ id draws rfl hrefused hraised set.refreshToken
      (token :: issued)
    exact ⟨_, hrun _ (Machine.run_cons.2 ⟨_, hissue, Machine.run_cons.2 ⟨_, hfail, rfl⟩⟩), hkept _⟩
  · obtain ⟨_, current, hcurrent, rfl, hrun, -⟩ := refresh_reaches_gotrue henv hr hs hlive httl haccess
      hrefresh id draws issued [.refresh 0 now (.answerLost set) newSessionToken]
    have hlost : r.afterGoTrue idleTtlSeconds now newSessionToken (.refreshing current) .exchangeError =
        some (.raise .oauthExchange) := rfl
    have hissue := RefreshState.one_issued env idleTtlSeconds (slid env db row now idleTtlSeconds) hcurrent hnew
      newSessionToken (.answerLost set) rfl hlost
    exact ⟨_, hrun _ (Machine.run_cons.2 ⟨_, hissue, rfl⟩), hkept _⟩

/-- A step that keeps every request between GoTrue and its rotation where it is. -/
private theorem not_strands_of_kept {s s' : RefreshState} {a : RefreshAction}
    (hstep : (refreshMachine env idleTtlSeconds).step s a = some s')
    (hkept : ∀ (i : Nat) r params, s.auth.requests[i]? = some (r, AuthPhase.rotating params) →
      s'.auth.requests[i]? = some (r, .rotating params))
    (ha : ∀ i now set token, a ≠ .refresh i now (.answerLost set) token) : ¬ Strands env idleTtlSeconds s a := by
  rintro (⟨i, now, set, token, h⟩ | ⟨i, r, params, response, s'', hi, hstep', hi', -⟩)
  · exact ha i now set token h
  · cases hstep.symm.trans hstep'
    cases (hkept i r params hi).symm.trans hi'

/-- Another refresh arrives while the first is between GoTrue and its rotation, and the first call of it fails. -/
private theorem refused_beside (env : AdapterEnv) (idleTtlSeconds : Int) (r : AuthRequest) {r' : AuthRequest}
    (hr' : r'.WellFormed) (now : Int) (store : Database) (params : RotateParams) (accepted : String)
    (issued : List String) (id : Uuid) (draws : Draws) (e : RepositoryError) {rest : List RefreshAction} :
    let s := RefreshState.one store r (.rotating params) now accepted issued
    let s' := RefreshState.two store r (.rotating params) r' (.raise (.repository e)) now accepted issued
    (∀ t, (refreshMachine env idleTtlSeconds).run s' rest = some t → (refreshMachine env idleTtlSeconds).run s
        ([.arrive r', .call 1 now id draws (.refused e)] ++ rest) = some t) ∧
      ((refreshMachine env idleTtlSeconds).Along (fun s a => ¬ Strands env idleTtlSeconds s a) s' rest →
        (refreshMachine env idleTtlSeconds).Along (fun s a => ¬ Strands env idleTtlSeconds s a) s
          ([.arrive r', .call 1 now id draws (.refused e)] ++ rest)) := by
  intro s s'
  let t := RefreshState.two store r (.rotating params) r' .resolving now accepted issued
  have harrive : (refreshMachine env idleTtlSeconds).step s (.arrive r') = some t := by
    rw [refreshMachine_step.2 (.arrive r'), hr'.enter]
    rfl
  have hi : t.auth.requests[1]? = some (r', .resolving) := rfl
  have hget : AuthPhase.resolving.nextCall idleTtlSeconds r'.sessionToken = some (.get r'.sessionToken) := rfl
  have hcall : RefreshStep env idleTtlSeconds t _ _ := .call id draws (.refused e) (Int.le_refl now) hi hget rfl
  have hrefused : (refreshMachine env idleTtlSeconds).step t (.call 1 now id draws (.refused e)) = some s' :=
    refreshMachine_step.2 hcall
  refine ⟨fun t' ht' => Machine.run_cons.2 ⟨t, harrive, Machine.run_cons.2 ⟨s', hrefused, ht'⟩⟩, fun hrest =>
    .cons (not_strands_of_kept harrive (fun i q q' hi => ?_) nofun) harrive
      (.cons (not_strands_of_kept hrefused (fun i q q' hi => ?_) nofun) hrefused hrest)⟩
  · cases i with
    | zero => exact hi
    | succ i => cases hi
  · match i with
    | 0 => exact hi
    | 1 | i + 2 => cases hi

/-- The calls of a refresh that completes, while another refresh of the login arrives and its first call fails. -/
def completingCalls (r r' : AuthRequest) (now : Int) (id : Uuid) (draws : Draws) (set : GoTrueTokenSet)
    (newSessionToken : String) (e : RepositoryError) : List RefreshAction :=
  refreshCalls r now id draws ++ [.refresh 0 now (.issues set) newSessionToken, .arrive r',
    .call 1 now id draws (.refused e), .call 0 now id draws .served]

/-- A refresh none of whose calls fails is answered with a new token, and strands nothing, also where another one
fails meanwhile. -/
private theorem refresh_completes (henv : env.Lawful) (hr : r.WellFormed) {r' : AuthRequest} (hr' : r'.WellFormed)
    (hs : db.sessionOf (env.hashSessionToken r.sessionToken) = some row) (hlive : row.Live now)
    (httl : 0 < idleTtlSeconds) {access token : String} (haccess : env.decrypt row.gotrueAccessToken = .ok access)
    (hrefresh : env.decrypt row.gotrueRefreshToken = .ok token) {issued : List String} (set : GoTrueTokenSet)
    (hnew : set.refreshToken ∉ token :: issued) (id : Uuid) (draws : Draws) {newSessionToken : String}
    (hid : draws.rowId ∉ db.userSessions.map UserSession.id)
    (hfree : db.sessionOf (env.hashSessionToken newSessionToken) = none) (e : RepositoryError) :
    ∃ s, (refreshMachine env idleTtlSeconds).run (.init db now token issued)
        (completingCalls r r' now id draws set newSessionToken e) = some s ∧
      (refreshMachine env idleTtlSeconds).Along (fun s a => ¬ Strands env idleTtlSeconds s a)
        (.init db now token issued) (completingCalls r r' now id draws set newSessionToken e) ∧
      s.auth.requests = [(r, .answered (.rotated newSessionToken)), (r', .raise (.repository e))] ∧
      s.accepted = set.refreshToken ∧ s.clock = now ∧
      ∃ row', s.auth.store.sessionOf (env.hashSessionToken newSessionToken) = some row' ∧ row'.Live now := by
  have hids : draws.rowId ∉ (slid env db row now idleTtlSeconds).userSessions.map UserSession.id := by
    rw [slid, Database.ids_update]
    exact hid
  have hfree' : (slid env db row now idleTtlSeconds).sessionOf (env.hashSessionToken newSessionToken) = none := by
    rw [slid, Database.sessionOf_update, hfree]
    rfl
  have hlive' := slid_live henv hlive httl
  obtain ⟨db₁, dto, hins, hrotate⟩ := AdapterEnv.exec_rotate_live henv
    (p := rotateParams r idleTtlSeconds now newSessionToken set) (slid_session env hs now idleTtlSeconds) hlive' hids
    hfree'
  obtain ⟨_, current, hcurrent, rfl, hrun, halong⟩ := refresh_reaches_gotrue henv hr hs hlive httl haccess hrefresh id
    draws issued [.refresh 0 now (.issues set) newSessionToken, .arrive r', .call 1 now id draws (.refused e),
      .call 0 now id draws .served]
  have hrotating : r.afterGoTrue idleTtlSeconds now newSessionToken (.refreshing current) (.tokens set) =
      some (.rotating (rotateParams r idleTtlSeconds now newSessionToken set)) := rfl
  have hissue := RefreshState.one_issued env idleTtlSeconds (slid env db row now idleTtlSeconds) hcurrent hnew
    newSessionToken (.issues set) rfl hrotating
  -- the other refresh comes and goes
  let params := rotateParams r idleTtlSeconds now newSessionToken set
  let after := RefreshState.two (slid env db row now idleTtlSeconds) r (.rotating params) r'
    (.raise (.repository e)) now set.refreshToken (token :: issued)
  obtain ⟨hrun', halong'⟩ := refused_beside env idleTtlSeconds r hr' now (slid env db row now idleTtlSeconds) params
    set.refreshToken (token :: issued) id draws e
  have hserved : (env.store.meeting .served).exec (slid env db row now idleTtlSeconds)
      ⟨now, .rotate params, id, draws⟩ = _ := hrotate
  have hi : after.auth.requests[0]? = some (r, .rotating params) := rfl
  have hnext : (AuthPhase.rotating params).nextCall idleTtlSeconds r.sessionToken = some (.rotate params) := rfl
  have hlast : RefreshStep env idleTtlSeconds after _ _ := .call id draws .served (Int.le_refl now) hi hnext hserved
  have hcall := refreshMachine_step.2 hlast
  have hne : env.hashSessionToken r.sessionToken ≠ env.hashSessionToken newSessionToken := by
    intro heq
    rw [← heq, hs] at hfree
    cases hfree
  have hs₁ : db₁.sessionOf (env.hashSessionToken r.sessionToken) =
      some ((SessionUpdate.slide now (env.intervalLength now idleTtlSeconds)).set row) :=
    Database.sessionOf_insert_of_some hins (slid_session env hs now idleTtlSeconds)
  refine ⟨_, hrun _ (Machine.run_cons.2 ⟨_, hissue, hrun' _ (Machine.run_cons.2 ⟨_, hcall, rfl⟩)⟩),
    halong (.cons ?_ hissue (halong' (.cons ?_ hcall trivial))), rfl, rfl, rfl, ?_⟩
  · refine not_strands_of_idle (fun x hx params hp => ?_) nofun
    cases List.mem_singleton.1 hx
    cases hp
  · -- the old session is revoked
    rintro (⟨_, _, _, _, ha⟩ | ⟨i, q, params, response, s', hi, hstep, -, old, hold, hl⟩)
    · cases ha
    · cases hcall.symm.trans hstep
      have hq : q.sessionToken = r.sessionToken := by
        match i with
        | 0 =>
          cases hi
          rfl
        | 1 | i + 2 => cases hi
      rw [hq, Database.sessionOf_update_id hs₁, if_pos rfl] at hold
      cases hold
      cases hl.1
  · refine ⟨(env.rotateArgs now draws (rotateParams r idleTtlSeconds now newSessionToken set)).row draws.rowId now
      ((SessionUpdate.slide now (env.intervalLength now idleTtlSeconds)).set row), ?_, rfl, hlive'.2.1, ?_⟩
    · rw [Database.sessionOf_update_id hs₁, if_neg hne.symm, Database.sessionOf_insert hins]
      exact if_pos rfl
    · exact hlive'.2.2

end OneRefresh

/-! ### Refreshes of the sample login -/

private theorem refreshRequest_wellFormed : refreshRequest.WellFormed := ⟨rfl, by decide, by decide⟩

/-- The rotation meets a database error. -/
def failedRotation : List RefreshAction :=
  refreshCalls refreshRequest 1767225600000000 301 ⟨301, sampleDraw 3, sampleDraw 4⟩ ++
    [.refresh 0 1767225600000000 (.issues ⟨"access-2", "refresh-2", 86400⟩) "token-2",
      .call 0 1767225600000000 301 ⟨301, sampleDraw 3, sampleDraw 4⟩
        (.refused (.databaseOperation "DeadlockDetectedError" "40P01"))]

/-- GoTrue issues a token, another refresh of the login meets a database error, and the rotation is served. -/
def racingRefreshes : List RefreshAction :=
  completingCalls refreshRequest refreshRequest 1767225600000000 301 ⟨301, sampleDraw 3, sampleDraw 4⟩
    ⟨"access-2", "refresh-2", 86400⟩ "token-2" (.databaseOperation "DeadlockDetectedError" "40P01")

theorem refresh_never_strands_racing :
    ∃ s, (refreshMachine sampleEnv 86400).run (.init sampleDatabase 1767225600000000 "refresh-1" []) racingRefreshes =
        some s ∧
      s.auth.requests.map Prod.snd = [.answered (.rotated "token-2"),
        .answered (.error 500 "DATABASE_OPERATION_ERROR")] ∧
      s.accepted = "refresh-2" ∧
      ∃ row, s.auth.store.sessionOf (sampleEnv.hashSessionToken "token-2") = some row ∧ row.Live s.clock ∧
        sampleEnv.decrypt row.gotrueRefreshToken = .ok s.accepted := by
  obtain ⟨old, hs, hrev, habs, hidle, haccess, hrefresh⟩ := sampleDatabase_session
  have hlive : old.Live 1767225600000000 := ⟨hrev, by rw [habs]; decide, by rw [hidle]; decide⟩
  have hid : (301 : Uuid) ∉ sampleDatabase.userSessions.map UserSession.id := by decide +kernel
  have hfree : sampleDatabase.sessionOf (sampleEnv.hashSessionToken "token-2") = none := by decide +kernel
  have hnew : "refresh-2" ∉ "refresh-1" :: [] := by decide
  obtain ⟨s, hrun, hstrand, hrequests, hacc, hclock, row, hrow, hl⟩ := refresh_completes sampleEnv_lawful
    refreshRequest_wellFormed refreshRequest_wellFormed hs hlive (show (0 : Int) < 86400 by decide) haccess hrefresh
    ⟨"access-2", "refresh-2", 86400⟩ hnew 301 ⟨301, sampleDraw 3, sampleDraw 4⟩ hid hfree
    (.databaseOperation "DeadlockDetectedError" "40P01")
  have hdone : s.AllAnswered := by
    intro x hx
    rw [hrequests] at hx
    simp only [List.mem_cons, List.not_mem_nil, or_false] at hx
    rcases hx with rfl | rfl <;> exact ⟨_, rfl⟩
  have harrivals : ∀ a ∈ racingRefreshes, ∀ r ∈ a.arrival, r.route = .refresh ∧
      sampleDatabase.OfLogin (sampleEnv.hashSessionToken "token-1") (sampleEnv.hashSessionToken r.sessionToken) := by
    have hall : ∀ a ∈ racingRefreshes, ∀ r ∈ a.arrival, r = refreshRequest := by decide
    intro a ha r hr
    rw [hall a ha r hr]
    exact ⟨rfl, Or.inr rfl⟩
  refine ⟨s, hrun, ?_, hacc, row, hrow, by rw [hclock]; exact hl, ?_⟩
  · rw [hrequests]
    rfl
  · exact refresh_never_strands sampleEnv_lawful hs hrev hrefresh harrivals hrun hstrand hdone _ row (Or.inl hfree)
      hrow s.clock (Int.le_refl _) (by rw [hclock]; exact hl)

/-- The session of the failed refresh stays valid, with a token that GoTrue has taken back. -/
theorem refresh_strands_session :
    ¬ ∀ (env : AdapterEnv) (db : Database) (login : Bytea) (row : UserSession) (token : String)
        (idleTtlSeconds clock : Int) (issued : List String) (as : List RefreshAction) (s : RefreshState),
      env.Lawful → db.sessionOf login = some row → row.revokedAt = none →
      env.decrypt row.gotrueRefreshToken = .ok token →
      (∀ a ∈ as, ∀ r ∈ a.arrival,
        r.route = .refresh ∧ db.OfLogin login (env.hashSessionToken r.sessionToken)) →
      (refreshMachine env idleTtlSeconds).run (.init db clock token issued) as = some s → s.AllAnswered →
      ∀ h row', db.OfLogin login h → s.auth.store.sessionOf h = some row' → ∀ now, s.clock ≤ now → row'.Live now →
        env.decrypt row'.gotrueRefreshToken = .ok s.accepted := by
  intro hclaim
  obtain ⟨old, hs, hrev, habs, hidle, haccess, hrefresh⟩ := sampleDatabase_session
  have hlive : old.Live 1767225600000000 := ⟨hrev, by rw [habs]; decide, by rw [hidle]; decide⟩
  have hnew : "refresh-2" ∉ "refresh-1" :: [] := by decide
  obtain ⟨⟨s, hrun, hdone, row, hrow, hl, hbad⟩, -⟩ := refresh_stranded sampleEnv_lawful refreshRequest_wellFormed hs
    hlive (show (0 : Int) < 86400 by decide) haccess hrefresh ⟨"access-2", "refresh-2", 86400⟩ hnew 301
    ⟨301, sampleDraw 3, sampleDraw 4⟩ "token-2" (.databaseOperation "DeadlockDetectedError" "40P01")
  have hall : ∀ a ∈ failedRotation, ∀ r ∈ a.arrival, r = refreshRequest := by decide
  refine hbad (hclaim sampleEnv sampleDatabase _ old "refresh-1" 86400 1767225600000000 [] failedRotation s
    sampleEnv_lawful hs hrev hrefresh ?_ hrun hdone _ row (Or.inr rfl) hrow s.clock (Int.le_refl _) hl)
  intro a ha r hr
  rw [hall a ha r hr]
  exact ⟨rfl, Or.inr rfl⟩

end CleanBackend
