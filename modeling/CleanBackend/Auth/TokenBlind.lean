import CleanBackend.Auth.GoTrueAnswers
import CleanBackend.Auth.ServedRuns
import CleanBackend.Lib.TwoRuns

/-!
# GoTrue tokens and the browser

Two runs of the same requests meet the same services, except that the answers of GoTrue may differ in the tokens under
`access_token` and `refresh_token`, at any depth.  Every helper of the handlers, run twice, keeps the two servers the
same but tokens, raises the same exception, and ends with values that are the same but tokens.  There is one way out:
a `callback` or a `refresh` prints the code of an error answer, which may be an object that holds a token
(`LoggedCall.Leaks`).  Without one, the responses of the two runs are equal (`browser_blind_to_tokens`).
-/

namespace CleanBackend

/-! ### What differs -/

inductive GoTrueOutcome.SameButTokens : GoTrueOutcome → GoTrueOutcome → Prop where
  | failed (failure : HttpFailure) : SameButTokens (.failed failure) (.failed failure)
  | answered (status : Nat) {body body' : Option Json} (h : Option.Rel SameJson body body') :
      SameButTokens (.answered status body) (.answered status body')

/-- The same clock, random values and driver. -/
inductive Service.SameButTokens : Service → Service → Prop where
  | mk (service : Service) {g g' : GoTrueOutcome} (h : g.SameButTokens g') :
      SameButTokens { service with gotrue := g } { service with gotrue := g' }

/-- Two servers that are the same but tokens; the first has logged `n` calls at least. -/
structure ServerState.SameButTokens (env : AdapterEnv) (n : Nat) (s s' : ServerState) : Prop where
  db : s.db.SameButTokens env s'.db
  meets : ∀ n, (s.meets n).SameButTokens (s'.meets n)
  logged : n ≤ s.log.length

/-- httpx sends every header value of these characters. -/
def BackendEnv.SendsTokens (env : BackendEnv) : Prop :=
  ∀ t, IsToken t → env.refusedHeader ("Bearer " ++ t) = none

/-- An error answer whose code holds a token. -/
def GoTrueOutcome.Leaks : GoTrueOutcome → Prop
  | failed _ => False
  | answered status body => 400 ≤ status ∧ (rawCode body).holdsToken = true

/-- GoTrue has answered with an error whose code holds a token. -/
def LoggedCall.Leaks (c : LoggedCall) : Prop :=
  match c.call with
  | .goTrue _ => c.service.gotrue.Leaks
  | _ => False

/-- GoTrue has answered so, and the route prints it; `logout` drops the error. -/
def Exchange.Leaks (x : Exchange) : Prop := x.request.route ≠ .logout ∧ ∃ c ∈ x.calls, c.Leaks

/-! ### Two runs -/

section Blind

variable (env : AdapterEnv) (n : Nat) {α β : Type} (A : α → β → Prop) (m : RouteHandler α) (m' : RouteHandler β)

/-- The same exception in both runs. -/
abbrev Blind : Prop := TwoRuns (ServerState.SameButTokens env n) (fun _ => Eq) A m m'

/-- The same exception in both runs, or one that GoTrue is the reason for, after an answer that leaks. -/
abbrev BlindUnlessLeak : Prop :=
  TwoRuns (ServerState.SameButTokens env n) (fun s e e' => e = e' ∨
    BrowserRoutes.oauthExchangeFailed e = true ∧ BrowserRoutes.oauthExchangeFailed e' = true ∧
      ∃ c ∈ s.log.drop n, c.Leaks) A m m'

variable {env n A m m'}

private theorem TwoRuns.unlessLeak (h : Blind env n A m m') : BlindUnlessLeak env n A m m' :=
  h.mono_error fun _ _ _ he => Or.inl he

end Blind

/-! ### The calls -/

section Calls

open RouteHandler

variable {env : BackendEnv} {n : Nat} {P : Int → Prop}

private theorem ServerState.SameButTokens.next {s s' : ServerState} (h : s.SameButTokens env.toAdapterEnv n s')
    (c c' : LoggedCall) :
    ServerState.SameButTokens env.toAdapterEnv n ⟨s.db, fun n => s.meets (n + 1), s.log ++ [c]⟩
      ⟨s'.db, fun n => s'.meets (n + 1), s'.log ++ [c']⟩ := by
  refine ⟨h.db, fun n => h.meets (n + 1), ?_⟩
  rw [List.length_append]
  exact h.logged.trans (Nat.le_add_right _ _)

private theorem nextService_blind (call call' : HandlerCall) :
    Blind env.toAdapterEnv n Service.SameButTokens (nextService call) (nextService call') :=
  fun _ _ h => .ok (h.meets 0) (h.next _ _)

private theorem tokenUrlsafe_blind (nbytes : Nat) : Blind env.toAdapterEnv n Eq (tokenUrlsafe nbytes)
    (tokenUrlsafe nbytes) :=
  (nextService_blind _ _).bind fun _ _ h => .pure (by cases h; rfl)

private theorem uuidHex_blind : Blind env.toAdapterEnv n Eq uuidHex uuidHex :=
  (nextService_blind _ _).bind fun _ _ h => .pure (by cases h; rfl)

private theorem datetimeNow_blind : Blind env.toAdapterEnv n Eq datetimeNow datetimeNow :=
  (nextService_blind _ _).bind fun _ _ h => .pure (by cases h; rfl)

private theorem validated_blind {α : Type} {A : α → α → Prop} {value value' : Option α}
    (h : Option.Rel A value value') : Blind env.toAdapterEnv n A (validated value) (validated value') := by
  cases h with
  | none => exact .throw_same _
  | some h => exact .pure h

private theorem driverCall_blind {α : Type} {A : α → α → Prop} {db db' : Database}
    {result result' : Except RouteException α} (hdb : db.SameButTokens env.toAdapterEnv db')
    (h : SameExcept A result result') (fate : DriverFate) :
    Blind env.toAdapterEnv n A (driverCall fate db result) (driverCall fate db' result') := by
  have hset : Blind env.toAdapterEnv n Eq (modify fun s => { s with db }) (modify fun s => { s with db := db' }) :=
    TwoRuns.modify fun s s' hw => ⟨hdb, hw.meets, hw.logged⟩
  cases fate with
  | served =>
    refine hset.bind fun _ _ _ => ?_
    cases h with
    | ok ha => exact .pure ha
    | error e => exact .throw_same e
  | refused e => exact .throw_same _
  | answerLost e => exact hset.bind fun _ _ _ => .throw_same _

private theorem RepositoryAnswer.SameButTokens.result {answer answer' : RepositoryAnswer}
    (h : answer.SameButTokens answer') :
    SameExcept RepositoryAnswer.SameButTokens answer.result answer'.result := by
  cases h with
  | same =>
    cases answer with
    | raised e => exact .error _
    | _ => exact .ok (.same _)
  | session h => exact .ok (.session h)

private theorem repositoryCall_blind (henv : env.LawfulOn P) {call call' : RepositoryCall}
    (h : call.SameButTokens call') :
    Blind env.toAdapterEnv n RepositoryAnswer.SameButTokens (repositoryCall env.toAdapterEnv call)
      (repositoryCall env.toAdapterEnv call') := by
  refine (nextService_blind _ _).bind fun service service' hs => ?_
  refine TwoRuns.get.bind fun s s' hw => ?_
  cases hs with
  | mk service hg =>
    have hexec := AdapterEnv.exec_same henv hw.db h service.now service.draws
    exact driverCall_blind hexec.db hexec.result.result service.fate

private theorem getSession_blind (henv : env.LawfulOn P) (sessionToken : String) :
    Blind env.toAdapterEnv n ActiveSessionDTO.SameButTokens (getSession env.toAdapterEnv sessionToken)
      (getSession env.toAdapterEnv sessionToken) := by
  refine (repositoryCall_blind henv (.same _)).bind fun answer answer' h => ?_
  cases h with
  | same =>
    cases answer with
    | session dto => exact .pure (.mk dto (.refl _) (.refl _))
    | _ => exact .throw_same _
  | session h => exact .pure h

private theorem touchSession_blind (henv : env.LawfulOn P) (sessionToken : String) (idleTtlSeconds : Int) :
    Blind env.toAdapterEnv n Eq (touchSession env.toAdapterEnv sessionToken idleTtlSeconds)
      (touchSession env.toAdapterEnv sessionToken idleTtlSeconds) :=
  (repositoryCall_blind henv (.same _)).bind fun _ _ _ => .pure rfl

private theorem createSession_blind (henv : env.LawfulOn P) {p p' : CreateParams}
    (h : RepositoryCall.SameButTokens (.create p) (.create p')) :
    Blind env.toAdapterEnv n Eq (createSession env.toAdapterEnv p) (createSession env.toAdapterEnv p') :=
  (repositoryCall_blind henv h).bind fun _ _ _ => .pure rfl

private theorem rotateSession_blind (henv : env.LawfulOn P) {p p' : RotateParams}
    (h : RepositoryCall.SameButTokens (.rotate p) (.rotate p')) :
    Blind env.toAdapterEnv n Eq (rotateSession env.toAdapterEnv p) (rotateSession env.toAdapterEnv p') :=
  (repositoryCall_blind henv h).bind fun _ _ _ => .pure rfl

private theorem revokeSession_blind (henv : env.LawfulOn P) (sessionToken : String) :
    Blind env.toAdapterEnv n Eq (revokeSession env.toAdapterEnv sessionToken)
      (revokeSession env.toAdapterEnv sessionToken) :=
  (repositoryCall_blind henv (.same _)).bind fun _ _ _ => .pure rfl

/-- `map_identity` reads the identity tables only, and leaves the sessions as they are. -/
private theorem Database.SameButTokens.mapIdentity {env : AdapterEnv} {db db' : Database}
    (h : db.SameButTokens env db')
    (now : Int) (call : MapIdentityCall) (pick : Nat) :
    SameOutcome env Eq (db.mapIdentity now call pick) (db'.mapIdentity now call pick) := by
  obtain ⟨ids, rows⟩ := db
  obtain ⟨ids', rows'⟩ := db'
  obtain ⟨hids, hrows⟩ := h
  cases hids
  simp only [Database.mapIdentity]
  split
  · exact ⟨⟨rfl, hrows⟩, rfl⟩
  · exact ⟨⟨rfl, hrows⟩, rfl⟩

private theorem mapIdentity_blind (provider subject : String) (email : Option String) (provision : Bool) :
    Blind env.toAdapterEnv n Eq (mapIdentity env provider subject email provision)
      (mapIdentity env provider subject email provision) := by
  refine (nextService_blind _ _).bind fun service service' hs => ?_
  refine TwoRuns.get.bind fun s s' hw => ?_
  cases hs with
  | mk service hg =>
    have hmap := hw.db.mapIdentity service.now (service.mapIdentityCall provider subject email provision) service.pick
    have hread := congrArg (fun reply => env.readIdentity (identityEnvelope reply)) hmap.result
    exact driverCall_blind hmap.db (.of_eq hread) service.fate

end Calls

/-! ### The client -/

section Client

open RouteHandler

variable {env : BackendEnv} {n : Nat}

/-- A request that httpx refuses in both runs, or sends in both; then the answer is the outcome of the call that the
log ends with. -/
private theorem httpRequest_same (request request' : GoTrueRequest)
    (h : (request.headers.findSome? fun header => env.refusedHeader header.2) =
      request'.headers.findSome? fun header => env.refusedHeader header.2) {s s' : ServerState}
    (hw : s.SameButTokens env.toAdapterEnv n s') :
    ∃ o o' s₁ s₁', httpRequest env request s = .ok o s₁ ∧ httpRequest env request' s' = .ok o' s₁' ∧
      o.SameButTokens o' ∧ s₁.SameButTokens env.toAdapterEnv n s₁' ∧ (o.Leaks → ∃ c ∈ s₁.log.drop n, c.Leaks) := by
  unfold httpRequest
  rw [h]
  cases request'.headers.findSome? fun header => env.refusedHeader header.2 with
  | some failure => exact ⟨_, _, s, s', rfl, rfl, .failed failure, hw, fun hl => hl.elim⟩
  | none =>
    have hs : (s.meets 0).gotrue.SameButTokens (s'.meets 0).gotrue := by
      have hmeets := hw.meets 0
      generalize s.meets 0 = service at hmeets
      generalize s'.meets 0 = service' at hmeets
      cases hmeets with
      | mk _ h => exact h
    refine ⟨_, _, _, _, rfl, rfl, hs, hw.next _ _, fun hl => ⟨⟨.goTrue request, s.meets 0⟩, ?_, hl⟩⟩
    rw [List.drop_append_of_le_length hw.logged]
    exact List.mem_append_right _ (List.mem_singleton_self _)

namespace SupabaseAuthClient

variable {client : SupabaseAuthClient}

private theorem request_blind (method path : String) (json json' : Option Json)
    {headers headers' : PyDict String String}
    (h : ((PyDict.update [("apikey", client.anonKey)] headers).findSome? fun header => env.refusedHeader header.2) =
      (PyDict.update [("apikey", client.anonKey)] headers').findSome? fun header => env.refusedHeader header.2)
    (expectJson : Bool) :
    BlindUnlessLeak env.toAdapterEnv n SameEntries (client.request env method path json headers expectJson)
      (client.request env method path json' headers' expectJson) := by
  intro s s' hw
  obtain ⟨o, o', s₁, s₁', hr, hr', ho, hw₁, hleak⟩ := httpRequest_same
    ⟨method, client.base ++ path, json, PyDict.update [("apikey", client.anonKey)] headers⟩
    ⟨method, client.base ++ path, json', PyDict.update [("apikey", client.anonKey)] headers'⟩ h hw
  show SameResult _ _ _ (EStateM.bind (httpRequest env _) _ s) (EStateM.bind (httpRequest env _) _ s')
  unfold EStateM.bind
  rw [hr, hr']
  cases ho with
  | failed failure => cases failure <;> exact .error (Or.inl rfl) hw₁
  | @answered status body body' hbody =>
    dsimp only
    by_cases hstatus : 400 ≤ status
    · rw [if_pos hstatus, if_pos hstatus]
      -- the only place where a token may get into an exception
      by_cases hclean : (rawCode body).holdsToken = true
      · exact .error (Or.inr ⟨rfl, rfl, hleak ⟨hstatus, hclean⟩⟩) hw₁
      · rw [safeErrorDetails_same hbody (Bool.not_eq_true _ ▸ hclean)]
        exact .error (Or.inl rfl) hw₁
    · rw [if_neg hstatus, if_neg hstatus]
      by_cases hexpect : ¬ expectJson
      · rw [if_pos hexpect, if_pos hexpect]
        exact .ok (sameJson_refl.2.2 _) hw₁
      · rw [if_neg hexpect, if_neg hexpect]
        cases hbody with
        | none => exact .error (Or.inl rfl) hw₁
        | some hsame =>
          rcases sameJson_cases hsame with rfl | ⟨items, items', rfl, rfl, -⟩ | ⟨entries, entries', rfl, rfl, he⟩
          · rename_i value
            cases value <;> exact .ok (sameJson_refl.2.2 _) hw₁
          · exact .ok (sameJson_refl.2.2 _) hw₁
          · exact .ok he hw₁

/-- The `Authorization` header is sent for both tokens, or the same text is refused. -/
private theorem bearer_same (hsend : env.SendsTokens) {t t' : String} (h : SameToken t t') :
    ((PyDict.update [("apikey", client.anonKey)] (bearer t)).findSome? fun header => env.refusedHeader header.2) =
      (PyDict.update [("apikey", client.anonKey)] (bearer t')).findSome? fun header =>
        env.refusedHeader header.2 := by
  rcases h with rfl | ⟨ht, ht'⟩
  · rfl
  · have hset : ∀ t, PyDict.update [("apikey", client.anonKey)] (bearer t) =
        [("apikey", client.anonKey), ("Authorization", "Bearer " ++ t)] := fun t => rfl
    simp only [hset, List.findSome?_cons, hsend t ht, hsend t' ht']

private theorem exchangeCode_blind (code codeVerifier : String) :
    BlindUnlessLeak env.toAdapterEnv n GoTrueTokenSet.SameButTokens (client.exchangeCode env code codeVerifier)
      (client.exchangeCode env code codeVerifier) :=
  (request_blind _ _ _ _ rfl _).bind fun _ _ h => (validated_blind (goTrueTokenSet_same h)).unlessLeak

private theorem refresh_blind (refreshToken refreshToken' : String) :
    BlindUnlessLeak env.toAdapterEnv n GoTrueTokenSet.SameButTokens (client.refresh env refreshToken)
      (client.refresh env refreshToken') :=
  (request_blind _ _ _ _ rfl _).bind fun _ _ h => (validated_blind (goTrueTokenSet_same h)).unlessLeak

private theorem logout_blind (hsend : env.SendsTokens) {t t' : String} (h : SameToken t t') :
    BlindUnlessLeak env.toAdapterEnv n Eq (client.logout env t) (client.logout env t') :=
  (request_blind _ _ _ _ (bearer_same hsend h) _).bind fun _ _ _ => .pure rfl

private theorem getUser_blind (hsend : env.SendsTokens) {t t' : String} (h : SameToken t t') :
    BlindUnlessLeak env.toAdapterEnv n Eq (client.getUser env t) (client.getUser env t') := by
  refine (request_blind _ _ _ _ (bearer_same hsend h) _).bind fun data data' hd => ?_
  rw [goTrueUser_same hd]
  refine TwoRuns.unlessLeak (validated_blind ?_)
  cases goTrueUser data' with
  | none => exact .none
  | some user => exact .some rfl

end SupabaseAuthClient

end Client

/-! ### The routes -/

namespace BrowserRoutes

open RouteHandler

section Routes

variable {env : BackendEnv} {settings : AuthSettings} {app : AppState} {r : BrowserRequest} {requestId : String}
  {n : Nat} {P : Int → Prop}

private theorem provided_blind (found : Bool) : Blind env.toAdapterEnv n Eq (provided found) (provided found) := by
  cases found with
  | true => exact .pure rfl
  | false => exact .throw_same _

private theorem provideSessionRepository_blind : Blind env.toAdapterEnv n Eq
    (provideSessionRepository env settings app) (provideSessionRepository env settings app) :=
  (provided_blind _).bind_eq fun _ => provided_blind _

private theorem provideSupabaseAuthClient_blind :
    Blind env.toAdapterEnv n Eq (provideSupabaseAuthClient app) (provideSupabaseAuthClient app) := by
  unfold provideSupabaseAuthClient
  split
  · exact .pure rfl
  · exact .throw_same _

private theorem getCurrentPrincipal_blind (henv : env.LawfulOn P) :
    Blind env.toAdapterEnv n Eq (getCurrentPrincipal env settings app r)
      (getCurrentPrincipal env settings app r) := by
  refine provideSessionRepository_blind.bind_eq fun _ => ?_
  split
  · exact .throw_same _
  · exact .throw_same _
  · refine (getSession_blind henv _).bind fun session session' hs => ?_
    refine (touchSession_blind henv _ _).bind_eq fun _ => .pure ?_
    cases hs
    rfl

private theorem requireCsrf_blind : Blind env.toAdapterEnv n Eq (requireCsrf settings r)
    (requireCsrf settings r) := by
  unfold requireCsrf
  split
  · exact .pure rfl
  · exact .throw_same _

private theorem callbackParams_blind : Blind env.toAdapterEnv n Eq (callbackParams env r) (callbackParams env r) := by
  unfold callbackParams
  split
  · exact .pure rfl
  all_goals exact .throw_same _

private theorem callbackVerifier_blind (state : String) :
    Blind env.toAdapterEnv n Eq (callbackVerifier env settings r state) (callbackVerifier env settings r state) := by
  unfold callbackVerifier
  split
  · exact .throw_same _
  · split
    · exact .pure rfl
    · exact .throw_same _

private theorem gotrueExpiry_blind {tokens tokens' : GoTrueTokenSet} (h : tokens.SameButTokens tokens') :
    Blind env.toAdapterEnv n Eq (gotrueExpiry tokens) (gotrueExpiry tokens') := by
  cases h with
  | mk expiresIn ha hr =>
    refine datetimeNow_blind.bind_eq fun now => ?_
    dsimp only
    cases datetimeAfter now expiresIn with
    | ok gotrueExpiresAt => exact .pure rfl
    | error e => exact .throw_same _

private theorem accessToken_same {tokens tokens' : GoTrueTokenSet} (h : tokens.SameButTokens tokens') :
    SameToken tokens.accessToken tokens'.accessToken := by
  cases h with
  | mk _ ha _ => exact ha

variable (settings r) in
private theorem createParams_same {tokens tokens' : GoTrueTokenSet} (h : tokens.SameButTokens tokens')
    (sessionToken : String) (identity : InternalIdentity) (gotrueExpiresAt : Int) :
    RepositoryCall.SameButTokens (.create (createParams settings r sessionToken identity tokens gotrueExpiresAt))
      (.create (createParams settings r sessionToken identity tokens' gotrueExpiresAt)) := by
  cases h with
  | mk expiresIn ha hr =>
    exact .create (createParams settings r sessionToken identity ⟨"", "", expiresIn⟩ gotrueExpiresAt) ha hr

variable (settings) in
private theorem rotateParams_same {tokens tokens' : GoTrueTokenSet} (h : tokens.SameButTokens tokens')
    (sessionToken newSessionToken : String) (gotrueExpiresAt : Int) :
    RepositoryCall.SameButTokens (.rotate (rotateParams settings sessionToken newSessionToken tokens gotrueExpiresAt))
      (.rotate (rotateParams settings sessionToken newSessionToken tokens' gotrueExpiresAt)) := by
  cases h with
  | mk expiresIn ha hr =>
    exact .rotate (rotateParams settings sessionToken newSessionToken ⟨"", "", expiresIn⟩ gotrueExpiresAt) ha hr

private theorem login_blind : Blind env.toAdapterEnv n Eq (login env settings app) (login env settings app) := by
  refine provideSupabaseAuthClient_blind.bind_eq fun client => ?_
  refine (tokenUrlsafe_blind 64).bind_eq fun verifier => ?_
  exact (tokenUrlsafe_blind 32).bind_eq fun state => .pure rfl

private theorem callback_blind (henv : env.LawfulOn P) (hsend : env.SendsTokens) :
    BlindUnlessLeak env.toAdapterEnv n Eq (callback env settings app r) (callback env settings app r) := by
  refine provideSupabaseAuthClient_blind.unlessLeak.bind_eq fun client => ?_
  refine (provided_blind _).unlessLeak.bind_eq fun _ => ?_
  refine provideSessionRepository_blind.unlessLeak.bind_eq fun _ => ?_
  refine callbackParams_blind.unlessLeak.bind_eq fun ⟨code, state⟩ => ?_
  refine (callbackVerifier_blind state).unlessLeak.bind_eq fun verifier => ?_
  refine (client.exchangeCode_blind code verifier).bind fun tokens tokens' ht => ?_
  refine (client.getUser_blind hsend (accessToken_same ht)).bind_eq fun user => ?_
  refine (mapIdentity_blind _ _ _ _).unlessLeak.bind_eq fun identity => ?_
  refine (tokenUrlsafe_blind 32).unlessLeak.bind_eq fun sessionToken => ?_
  refine (gotrueExpiry_blind ht).unlessLeak.bind_eq fun gotrueExpiresAt => ?_
  have hcreate := createParams_same settings r ht sessionToken identity gotrueExpiresAt
  refine (createSession_blind henv hcreate).unlessLeak.bind_eq fun _ => ?_
  exact (tokenUrlsafe_blind 32).unlessLeak.bind_eq fun csrfToken => .pure rfl

private theorem refresh_blind (henv : env.LawfulOn P) :
    BlindUnlessLeak env.toAdapterEnv n Eq (refresh env settings app r requestId)
      (refresh env settings app r requestId) := by
  refine requireCsrf_blind.unlessLeak.bind_eq fun _ => ?_
  refine (getCurrentPrincipal_blind henv).unlessLeak.bind_eq fun principal => ?_
  refine provideSupabaseAuthClient_blind.unlessLeak.bind_eq fun client => ?_
  refine (getSession_blind henv _).unlessLeak.bind fun current current' _ => ?_
  refine (client.refresh_blind _ _).bind fun tokens tokens' ht => ?_
  refine (tokenUrlsafe_blind 32).unlessLeak.bind_eq fun newSessionToken => ?_
  refine (gotrueExpiry_blind ht).unlessLeak.bind_eq fun gotrueExpiresAt => ?_
  have hrotate := rotateParams_same settings ht (sessionTokenOf settings r) newSessionToken gotrueExpiresAt
  refine (rotateSession_blind henv hrotate).unlessLeak.bind_eq fun _ => ?_
  exact (tokenUrlsafe_blind 32).unlessLeak.bind_eq fun csrfToken => .pure rfl

private theorem currentSession_blind (henv : env.LawfulOn P) (sessionToken : String) :
    Blind env.toAdapterEnv n (Option.Rel ActiveSessionDTO.SameButTokens) (currentSession env sessionToken)
      (currentSession env sessionToken) := by
  refine TwoRuns.tryCatch ((getSession_blind henv _).bind fun _ _ hs => .pure (.some hs)) fun s e e' he => ?_
  cases he
  split
  · exact .pure .none
  · exact .throw_same _

/-- An error of GoTrue is dropped, whatever it prints. -/
private theorem gotrueLogout_blind (hsend : env.SendsTokens) (client : SupabaseAuthClient)
    {current current' : ActiveSessionDTO} (h : current.SameButTokens current') :
    Blind env.toAdapterEnv n Eq (gotrueLogout env client current) (gotrueLogout env client current') := by
  cases h with
  | mk dto ha hr =>
    refine (client.logout_blind hsend ha).tryCatch fun s e e' he => ?_
    rcases he with rfl | ⟨he, he', -⟩
    · split
      · exact .pure rfl
      · exact .throw_same _
    · rw [if_pos he, if_pos he']
      exact .pure rfl

private theorem logout_blind (henv : env.LawfulOn P) (hsend : env.SendsTokens) :
    Blind env.toAdapterEnv n Eq (logout env settings app r requestId) (logout env settings app r requestId) := by
  refine requireCsrf_blind.bind_eq fun _ => ?_
  refine (getCurrentPrincipal_blind henv).bind_eq fun principal => ?_
  refine provideSupabaseAuthClient_blind.bind_eq fun client => ?_
  refine (currentSession_blind henv _).bind fun current current' hc => ?_
  have hrest : Blind env.toAdapterEnv n Eq
      (do
        revokeSession env.toAdapterEnv (sessionTokenOf settings r)
        return ((jsonResponse 200 (apiSuccess requestId (.obj [("logged_out", .bool true)]))).with
          settings.clearSessionCookie).with settings.clearCsrfCookie)
      (do
        revokeSession env.toAdapterEnv (sessionTokenOf settings r)
        return ((jsonResponse 200 (apiSuccess requestId (.obj [("logged_out", .bool true)]))).with
          settings.clearSessionCookie).with settings.clearCsrfCookie) :=
    (revokeSession_blind henv _).bind_eq fun _ => .pure rfl
  cases hc with
  | none => exact hrest
  | some h => exact (gotrueLogout_blind hsend client h).bind_eq fun _ => hrest

private theorem me_blind (henv : env.LawfulOn P) :
    Blind env.toAdapterEnv n Eq (me env settings app r requestId) (me env settings app r requestId) :=
  (getCurrentPrincipal_blind henv).bind_eq fun _ => .pure rfl

private theorem handle_blind (henv : env.LawfulOn P) (hsend : env.SendsTokens) (hroute : r.route = .logout) :
    Blind env.toAdapterEnv n Eq (handle env settings app r requestId) (handle env settings app r requestId) := by
  unfold handle
  rw [hroute]
  exact logout_blind henv hsend

private theorem handle_blindUnlessLeak (henv : env.LawfulOn P) (hsend : env.SendsTokens) :
    BlindUnlessLeak env.toAdapterEnv n Eq (handle env settings app r requestId)
      (handle env settings app r requestId) := by
  unfold handle
  split
  · exact login_blind.unlessLeak
  · exact callback_blind henv hsend
  · exact refresh_blind henv
  · exact (logout_blind henv hsend).unlessLeak
  · exact (me_blind henv).unlessLeak

private theorem requestIdOf_blind : Blind env.toAdapterEnv n Eq (requestIdOf r) (requestIdOf r) := by
  unfold requestIdOf
  split
  · exact uuidHex_blind
  · exact uuidHex_blind
  · exact .pure rfl

/-- The exception handlers see the same exception, unless GoTrue has answered a route that prints it with a leak. -/
private theorem respond_same (henv : env.LawfulOn P) (hsend : env.SendsTokens) {s s' s₁ : ServerState}
    {response : HttpResponse} (hw : s.SameButTokens env.toAdapterEnv s.log.length s')
    (hr : respond env settings app r s = .ok response s₁)
    (hclean : ¬ Exchange.Leaks ⟨r, s, response, s₁⟩) :
    ∃ s₁', respond env settings app r s' = .ok response s₁' ∧
      s₁.SameButTokens env.toAdapterEnv s.log.length s₁' := by
  have hrespond : ∀ s, respond env settings app r s = EStateM.bind (requestIdOf r) (fun requestId =>
      EStateM.tryCatch (handle env settings app r requestId) fun e =>
        pure (e.response ⟨settings.apiPrefix ++ r.route.path, r.route.method, requestId⟩)) s := fun _ => rfl
  rw [hrespond] at hr ⊢
  unfold EStateM.bind at hr ⊢
  have hid : Blind env.toAdapterEnv s.log.length Eq (requestIdOf r) (requestIdOf r) := requestIdOf_blind
  replace hid := hid s s' hw
  generalize requestIdOf r s = id at hid hr
  generalize requestIdOf r s' = id' at hid
  cases hid with
  | error _ _ => cases hr
  | @ok requestId _ s₂ s₂' heq hw₂ =>
    subst heq
    unfold EStateM.tryCatch at hr ⊢
    dsimp only at hr ⊢
    -- `logout` catches what GoTrue raises, so its answer is the same in any case
    by_cases hroute : r.route = .logout
    · have h : Blind env.toAdapterEnv s.log.length Eq (handle env settings app r requestId)
          (handle env settings app r requestId) := handle_blind henv hsend hroute
      replace h := h s₂ s₂' hw₂
      generalize handle env settings app r requestId s₂ = done at h hr
      generalize handle env settings app r requestId s₂' = done' at h
      cases h with
      | ok heq hw =>
        cases heq
        cases hr
        exact ⟨_, rfl, hw⟩
      | error heq hw =>
        cases heq
        cases hr
        exact ⟨_, rfl, hw⟩
    · have h : BlindUnlessLeak env.toAdapterEnv s.log.length Eq (handle env settings app r requestId)
          (handle env settings app r requestId) := handle_blindUnlessLeak henv hsend
      replace h := h s₂ s₂' hw₂
      generalize handle env settings app r requestId s₂ = done at h hr
      generalize handle env settings app r requestId s₂' = done' at h
      cases h with
      | ok heq hw =>
        cases heq
        cases hr
        exact ⟨_, rfl, hw⟩
      | error he hw =>
        cases hr
        rcases he with rfl | ⟨-, -, hleak⟩
        · exact ⟨_, rfl, hw⟩
        · exact absurd ⟨hroute, hleak⟩ hclean

private theorem exchanges_same (henv : env.LawfulOn P) (hsend : env.SendsTokens) (settings : AuthSettings)
    (app : AppState) (requests : List BrowserRequest) {s s' : ServerState}
    (hw : s.SameButTokens env.toAdapterEnv n s')
    (hclean : ∀ x ∈ exchanges env settings app requests s, ¬ x.Leaks) :
    (exchanges env settings app requests s).map Exchange.response =
      (exchanges env settings app requests s').map Exchange.response := by
  induction requests generalizing s s' n with
  | nil => rfl
  | cons r requests ih =>
    obtain ⟨response, s₁, -, hr, hcons⟩ := exchanges_cons env settings app r requests s
    obtain ⟨response', s₁', -, hr', hcons'⟩ := exchanges_cons env settings app r requests s'
    rw [hcons] at hclean
    obtain ⟨s₂', hsame, hw₁⟩ := respond_same henv hsend ⟨hw.db, hw.meets, le_rfl⟩ hr (hclean _ List.mem_cons_self)
    cases hsame.symm.trans hr'
    rw [hcons, hcons', List.map_cons, List.map_cons, ih hw₁ fun x hx => hclean x (List.mem_cons_of_mem _ hx)]

end Routes

end BrowserRoutes

/-- Two runs of the same requests, with GoTrue answers that differ in tokens only, get the same responses, where
GoTrue answers no `callback` and no `refresh` with an error whose code holds a token. -/
theorem browser_blind_to_tokens {env : BackendEnv} (henv : env.LawfulOn InDatetimeRange) (hsend : env.SendsTokens)
    (settings : AuthSettings) (app : AppState) (requests : List BrowserRequest) {db db' : Database}
    (hdb : db.SameButTokens env.toAdapterEnv db') {meets meets' : Nat → Service}
    (hmeets : ∀ n, (meets n).SameButTokens (meets' n))
    (hclean : ∀ x ∈ BrowserRoutes.exchanges env settings app requests ⟨db, meets, []⟩, ¬ x.Leaks) :
    ∃ responses s s', BrowserRoutes.serve env settings app requests ⟨db, meets, []⟩ = .ok responses s ∧
      BrowserRoutes.serve env settings app requests ⟨db', meets', []⟩ = .ok responses s' := by
  obtain ⟨s, hs⟩ := BrowserRoutes.serve_exchanges env settings app requests ⟨db, meets, []⟩
  obtain ⟨s', hs'⟩ := BrowserRoutes.serve_exchanges env settings app requests ⟨db', meets', []⟩
  have hstart : (⟨db, meets, []⟩ : ServerState).SameButTokens env.toAdapterEnv 0 ⟨db', meets', []⟩ :=
    ⟨hdb, hmeets, le_rfl⟩
  have hsame := BrowserRoutes.exchanges_same henv hsend settings app requests hstart hclean
  rw [← hsame] at hs'
  exact ⟨_, s, s', hs, hs'⟩

/-! ### Runs with other tokens -/

/-- The Fernet tokens of the sample, and those of two other GoTrue tokens with the same draws. -/
def otherCiphertexts : List ((Bytea × Bytea) × Bytea) :=
  sampleCiphertexts ++
    [((sampleDraw 3, utf8 "eyJhbGciOiJIUzI1NiJ9.e30.x_Z"), utf8
      ("gAAAAABpVbkAAwMDAwMDAwMDAwMDAwMDAwUbZsmu7msf2VFBNYJfwDnWed" ++
        "Ch7fwnekUrQUrCpCSybJMKTPvVj4GTBr5WnDxIpBGIw8lsG69cxOjSci9kZgg=")),
      ((sampleDraw 4, utf8 "v1.another-refresh_token"), utf8
        ("gAAAAABpVbkABAQEBAQEBAQEBAQEBAQEBBRNll0Qf5BYm3F9pWJZiO3m1J" ++
        "ENzDELTlH3qCuSuXXOD8Ds-GYy7eNJ8lQtmHX9NeQ2nv_9aIYGcOBubYwTbic="))]

mutual

/-- `repr(value)`, for texts without quotes, backslashes and control characters. -/
def pyRepr : Json → String
  | .null => "None"
  | .bool true => "True"
  | .bool false => "False"
  | .num m _ => toString m
  | .str s => "'" ++ s ++ "'"
  | .arr items => "[" ++ reprItems items ++ "]"
  | .obj entries => "\x7b" ++ reprEntries entries ++ "\x7d"

def reprItems : List Json → String
  | [] => ""
  | [item] => pyRepr item
  | item :: items => pyRepr item ++ ", " ++ reprItems items

def reprEntries : List (String × Json) → String
  | [] => ""
  | [(key, value)] => "'" ++ key ++ "': " ++ pyRepr value
  | (key, value) :: entries => "'" ++ key ++ "': " ++ pyRepr value ++ ", " ++ reprEntries entries

end

/-- The state cookie of the sample, and the text in it. -/
def sampleState : String := "eyJzdGF0ZSI6ICJzLTEiLCAidmVyaWZpZXIiOiAidi0xIn0="

def sampleStateText : Bytea := utf8 "\x7b\"state\": \"s-1\", \"verifier\": \"v-1\"\x7d"

/-- The surroundings of the sample, which starts no login. -/
def sampleBackend : BackendEnv where
  sha256 := sampleEnv.sha256
  fernetEncrypt draw data := tabled otherCiphertexts zeroThen (draw, data)
  fernetDecrypt := untabled otherCiphertexts Prod.snd afterZero
  timestamptzText := sampleEnv.timestamptzText
  parseDatetime := sampleEnv.parseDatetime
  fromisoformat := sampleEnv.fromisoformat
  parseIp := sampleEnv.parseIp
  intervalLength := sampleEnv.intervalLength
  refusedHeader value := if value.toList.all fun c => 32 ≤ c.toNat && c.toNat ≤ 126 then none else some .other
  urlencode _ := ""
  urlsafeB64encode _ := ""
  urlsafeB64decode raw := if raw = sampleState then some sampleStateText else none
  jsonDumps _ := ""
  jsonLoads data := if data = sampleStateText then some (.obj [("state", .str "s-1"),
    ("verifier", .str "v-1")]) else none
  intField
    | .num m 0 => some m
    | _ => none
  strOf := pyRepr
  missingErrors names := .arr (names.map .str)
  fernetKey key := key == "cw_0x689RpI-jtRR7oE8h_eQsKImvJapLeSbXpwF4e4="

private theorem sampleBackend_lawful : sampleBackend.LawfulOn InDatetimeRange where
  sha256_length := sampleEnv_lawful.sha256_length
  decrypt_encrypt := decrypt_table (by decide) (by decide)
  parseDatetime_text t _ := sampleEnv_lawful.parseDatetime_text t trivial
  fromisoformat_text t _ := sampleEnv_lawful.fromisoformat_text t trivial

private theorem sampleBackend_sends : sampleBackend.SendsTokens := by
  intro t ht
  have hall : ("Bearer " ++ t).toList.all (fun c => 32 ≤ c.toNat && c.toNat ≤ 126) = true := by
    rw [String.toList_append, List.all_append]
    refine Bool.and_eq_true_iff.2 ⟨by decide, List.all_eq_true.2 fun c hc => ?_⟩
    have hascii := tokenChar_ascii (ht.2 c hc)
    simp [hascii]
  exact if_pos hall

def sampleSettings : AuthSettings where
  apiPrefix := "/api/v1"
  frontendPostLoginUrl := "http://localhost:3000/"
  sessionTokenEncryptionKey := some "cw_0x689RpI-jtRR7oE8h_eQsKImvJapLeSbXpwF4e4="
  identityAutoProvision := false
  sessionCookieName := "sid"
  sessionCookieSecure := true
  sessionCookieSamesite := .lax
  sessionCookieDomain := none
  sessionAbsoluteTtlSeconds := 2592000
  sessionIdleTtlSeconds := 86400
  csrfCookieName := "csrftoken"
  csrfHeaderName := "X-CSRF-Token"
  pkceStateCookieName := "auth_state"
  pkceStateTtlSeconds := 600

def sampleApp : AppState :=
  ⟨some ⟨"https://project.supabase.co/", "anon-key", "http://localhost:8000/api/v1/auth/callback", "google"⟩, true⟩

/-- A callback, a refresh of the session of the sample login, then `me` and `logout` with the new session. -/
def sampleRequests : List BrowserRequest :=
  [⟨.callback, [], [("auth_state", sampleState)], some "code-1", some "s-1", none⟩,
    ⟨.refresh, [("x-csrf-token", "csrf-1")], [("sid", "token-1"), ("csrftoken", "csrf-1")], none, none, none⟩,
    ⟨.me, [], [("sid", "token-2")], none, none, none⟩,
    ⟨.logout, [("x-csrf-token", "token-2")], [("sid", "token-2"), ("csrftoken", "token-2")], none, none, none⟩]

/-- Every call at one time, with one draw. -/
def sampleService (gotrue : GoTrueOutcome) : Service where
  now := 1767225600000000
  tokenUrlsafe _ := "token-2"
  uuid := 301
  draws := ⟨203, sampleDraw 3, sampleDraw 4⟩
  userId := 2
  tenantId := 2
  pick := 0
  fate := .served
  gotrue := gotrue

/-- GoTrue issues two tokens. -/
def tokenAnswer (accessToken refreshToken : String) : GoTrueOutcome :=
  .answered 200 (some (.obj [("access_token", .str accessToken), ("refresh_token", .str refreshToken),
    ("expires_in", .num 86400 0), ("token_type", .str "bearer")]))

/-- GoTrue refuses a code, and sends a token beside the error. -/
def refusedAnswer (accessToken : String) : GoTrueOutcome :=
  .answered 400 (some (.obj [("error_code", .str "bad_code_verifier"),
    ("session", .obj [("access_token", .str accessToken)])]))

/-- The error itself holds the token. -/
def leakingAnswer (accessToken : String) : GoTrueOutcome :=
  .answered 400 (some (.obj [("error", .obj [("message", .str "revoked"), ("access_token", .str accessToken)])]))

/-- The first call of GoTrue is refused. -/
def sampleMeets (accessToken refreshToken : String) (n : Nat) : Service :=
  sampleService (if n = 1 then refusedAnswer accessToken else tokenAnswer accessToken refreshToken)

private theorem sampleMeets_clean (accessToken refreshToken : String) (n : Nat) :
    ¬ (sampleMeets accessToken refreshToken n).gotrue.Leaks := by
  unfold sampleMeets sampleService
  dsimp only
  split
  · exact fun h => Bool.noConfusion (h.2 : false = true)
  · exact fun h => absurd h.1 (by decide)

theorem browser_blind_to_tokens_refused : ∃ responses s s',
    BrowserRoutes.serve sampleBackend sampleSettings sampleApp sampleRequests
      ⟨sampleDatabase, sampleMeets "access-2" "refresh-2", []⟩ = .ok responses s ∧
    BrowserRoutes.serve sampleBackend sampleSettings sampleApp sampleRequests
      ⟨sampleDatabase, sampleMeets "eyJhbGciOiJIUzI1NiJ9.e30.x_Z" "v1.another-refresh_token", []⟩ =
        .ok responses s' := by
  refine browser_blind_to_tokens sampleBackend_lawful sampleBackend_sends sampleSettings sampleApp sampleRequests
    (.refl sampleDatabase) (fun n => ?_) fun x hx hleak => ?_
  · refine .mk (sampleService (tokenAnswer "" "")) ?_
    split
    · refine .answered 400 (.some (SameEntries.obj (.same _ (.value (.obj ?_) (sameJson_refl.2.2 [])))))
      exact .token (by decide) (by decide) (by decide) (sameJson_refl.2.2 [])
    · refine .answered 200 (.some (SameEntries.obj ?_))
      refine .token (by decide) (by decide) (by decide) ?_
      exact .token (by decide) (by decide) (by decide) (sameJson_refl.2.2 _)
  · obtain ⟨-, c, hc, hleaks⟩ := hleak
    obtain ⟨n, hn⟩ := BrowserRoutes.exchanges_meet _ _ _ _ _ x hx c hc
    unfold LoggedCall.Leaks at hleaks
    split at hleaks
    · rw [hn] at hleaks
      exact sampleMeets_clean _ _ n hleaks
    · exact hleaks

/-- `error.details.provider_code` of the body. -/
def HttpResponse.providerCode (response : HttpResponse) : Option String := do
  let .obj body ← response.body | none
  let .obj error ← PyDict.get body "error" | none
  let .obj details ← PyDict.get error "details" | none
  let code ← PyDict.get details "provider_code"
  code.str?

/-- A callback whose code GoTrue refuses with a token in the error: the browser gets the token. -/
theorem browser_sees_token :
    (sampleService (leakingAnswer "token-a")).SameButTokens (sampleService (leakingAnswer "token-b")) ∧
    ¬ ∃ responses s s',
      BrowserRoutes.serve sampleBackend sampleSettings sampleApp (sampleRequests.take 1)
        ⟨.empty oneMember, fun _ => sampleService (leakingAnswer "token-a"), []⟩ = .ok responses s ∧
      BrowserRoutes.serve sampleBackend sampleSettings sampleApp (sampleRequests.take 1)
        ⟨.empty oneMember, fun _ => sampleService (leakingAnswer "token-b"), []⟩ = .ok responses s' := by
  refine ⟨.mk (sampleService (leakingAnswer "")) (.answered 400 (.some (SameEntries.obj ?_))), ?_⟩
  · refine .value (.obj (.same _ ?_)) (sameJson_refl.2.2 [])
    exact .token (by decide) (by decide) (by decide) (sameJson_refl.2.2 [])
  · rintro ⟨responses, s, s', h, h'⟩
    have hcodes : ∀ {t : String} {s : ServerState}, BrowserRoutes.serve sampleBackend sampleSettings sampleApp
        (sampleRequests.take 1) ⟨.empty oneMember, fun _ => sampleService (leakingAnswer t), []⟩ = .ok responses s →
        responses.map HttpResponse.providerCode = (BrowserRoutes.exchanges sampleBackend sampleSettings sampleApp
          (sampleRequests.take 1) ⟨.empty oneMember, fun _ => sampleService (leakingAnswer t), []⟩).map
          fun x => x.response.providerCode := fun hs => by
      obtain ⟨s₁, hs₁⟩ := BrowserRoutes.serve_exchanges sampleBackend sampleSettings sampleApp (sampleRequests.take 1)
        ⟨.empty oneMember, fun _ => sampleService (leakingAnswer _), []⟩
      cases hs.symm.trans hs₁
      rw [List.map_map]
      rfl
    have hsame := (hcodes h).symm.trans (hcodes h')
    revert hsame
    decide

end CleanBackend
