import CleanBackend.Auth.RequestTrace

/-!
# Runs of the server

A run of the server is a list of exchanges: a request with the states before and after it.  What the server has called
for a request is what it has logged in between.  In every exchange these calls follow the plan of the request
(`requests_follow_plan`).  In a run from an empty table, `me`, `refresh` and `logout` succeed only for a session that
is valid by the calls before, at the time of the call that looks it up (`accepted_sessions_valid`), and never for one
that a `refresh` or a `logout` has ended (`ended_sessions_refused`).
-/

namespace CleanBackend

/-- What a request that succeeds has found by its events: the session of its cookie, or, for a callback, an identity,
whose session it creates. -/
def BrowserRequest.Resolves (env : BackendEnv) (settings : AuthSettings) (r : BrowserRequest) (es : List DbEvent)
    (response : HttpResponse) : Prop :=
  match r.route with
  | .login => True
  | .callback => ∃ now call pick m t id a d,
      es = [.identity now call pick (.ok (.ok m)), .session ⟨t, .create id a, .created d⟩] ∧
        call.provider = "supabase" ∧ a.userId = m.userId ∧ a.tenantId = m.tenantId
  | .me => ∃ d, Resolved (r.tokenHash env settings) es d ∧
      ∃ requestId, response = jsonResponse 200 (BrowserRoutes.meBody requestId d)
  | .refresh | .logout => ∃ d, Resolved (r.tokenHash env settings) es d ∧ Ended (r.tokenHash env settings) es

/-- A request with the states of the server around it. -/
structure Exchange where
  request : BrowserRequest
  before : ServerState
  response : HttpResponse
  after : ServerState

namespace Exchange

/-- What the server has called for the request. -/
def calls (x : Exchange) : List LoggedCall := x.after.log.drop x.before.log.length

def databaseCalls (env : AdapterEnv) (x : Exchange) : List DbShape := x.calls.filterMap fun c => c.call.shape env

/-- The functions of the database that the calls ran. -/
def events (env : AdapterEnv) (x : Exchange) : List DbEvent := (replay env x.before.db x.calls).2

/-- The calls account for the database, and make a part of the plan of the request, the whole plan if it succeeded. -/
structure Planned (env : BackendEnv) (settings : AuthSettings) (x : Exchange) : Prop where
  made : CallsMade env.toAdapterEnv x.before x.calls (x.events env.toAdapterEnv) x.after
  part : x.databaseCalls env.toAdapterEnv <+: x.request.plan env settings
  whole : x.response.status < 400 → x.databaseCalls env.toAdapterEnv = x.request.plan env settings
  resolves : x.response.status < 400 →
    x.request.Resolves env settings (x.events env.toAdapterEnv) x.response

end Exchange

namespace BrowserRoutes

open RouteHandler

section Exchanges

variable (env : BackendEnv) (settings : AuthSettings) (app : AppState)

/-- The requests of a list, one after the other. -/
def exchanges : List BrowserRequest → ServerState → List Exchange
  | [], _ => []
  | r :: requests, s =>
    match respond env settings app r s with
    | .ok response s' => ⟨r, s, response, s'⟩ :: exchanges requests s'
    | .error _ _ => []

private theorem follows_handle (requestId : String) (r : BrowserRequest) :
    Follows env.toAdapterEnv (r.plan env settings) (handle env settings app r requestId)
      (r.Resolves env settings) := by
  cases r with | mk route headers cookies code state =>
  cases route with
  | login => exact (follows_login env settings app).follows
  | callback => exact follows_callback env settings app _
  | me =>
    refine (follows_me env settings app _ requestId).mono fun es response h => ?_
    obtain ⟨d, hd, hbody⟩ := h
    exact ⟨d, hd, requestId, hbody⟩
  | refresh => exact follows_refresh env settings app _ requestId
  | logout => exact follows_logout env settings app _ requestId

/-- The id of a request is found or drawn, and never fails. -/
private theorem traced_requestIdOf (r : BrowserRequest) : Traced (Calls env.toAdapterEnv) id (requestIdOf r)
    fun xs result =>
    shapesOf env.toAdapterEnv xs = [] ∧ xs.filterMap Prod.snd = [] ∧ ∃ requestId, result = .ok requestId := by
  unfold requestIdOf
  split
  · exact traced_uuidHex env.toAdapterEnv
  · exact traced_uuidHex env.toAdapterEnv
  · exact Traced.pure ⟨rfl, rfl, _, rfl⟩

/-- The exception handlers answer every exception, with an error status. -/
private theorem traced_respond (r : BrowserRequest) :
    Traced (Calls env.toAdapterEnv) id (respond env settings app r) fun xs result =>
      ∃ response, result = .ok response ∧ shapesOf env.toAdapterEnv xs <+: r.plan env settings ∧
      (response.status < 400 → shapesOf env.toAdapterEnv xs = r.plan env settings ∧
        r.Resolves env settings (xs.filterMap Prod.snd) response) := by
  refine Traced.bind (traced_requestIdOf env r) (fun xs requestId h => ?_) fun xs e h => ?_
  · obtain ⟨hshapes, hevents, -⟩ := h
    refine Traced.mono (P := fun ys result => ∃ response, result = .ok response ∧
      shapesOf env.toAdapterEnv ys <+: r.plan env settings ∧
      (response.status < 400 → shapesOf env.toAdapterEnv ys = r.plan env settings ∧
        r.Resolves env settings (ys.filterMap Prod.snd) response)) ?_ fun ys result h => ?_
    · refine Traced.tryCatch (follows_handle env settings app requestId r) (fun ys response h => ?_) fun ys e h => ?_
      · exact ⟨response, rfl, h.1, fun _ => h.2.1 response rfl⟩
      · refine Traced.pure ?_
        have hfails : ¬ (e.response ⟨settings.apiPrefix ++ r.route.path, r.route.method, requestId⟩).status < 400 :=
          Nat.not_lt.2 (h.2.2 e rfl _)
        rw [List.append_nil]
        exact ⟨_, rfl, h.1, fun hs => absurd hs hfails⟩
    · rwa [shapesOf_append, List.filterMap_append, hshapes, hevents]
  · obtain ⟨-, -, requestId, he⟩ := h
    cases he

/-- Every request is answered, by its plan. -/
private theorem respond_planned (r : BrowserRequest) (s : ServerState) :
    ∃ response s', respond env settings app r s = .ok response s' ∧
      Exchange.Planned env settings ⟨r, s, response, s'⟩ := by
  obtain ⟨xs, hxs, response, hresponse, hpart, hwhole⟩ := traced_respond env settings app r s
  cases hr : respond env settings app r s with
  | error e s' =>
    rw [hr] at hresponse
    cases hresponse
  | ok response' s' =>
    rw [hr] at hresponse hxs
    cases hresponse
    have hmade : CallsMade env.toAdapterEnv s (xs.map Prod.fst) (xs.filterMap Prod.snd) s' := hxs.callsMade
    have hcalls : Exchange.calls ⟨r, s, response, s'⟩ = xs.map Prod.fst := by
      unfold Exchange.calls
      rw [hmade.log, List.drop_left]
    have hevents : Exchange.events env.toAdapterEnv ⟨r, s, response, s'⟩ = xs.filterMap Prod.snd := by
      unfold Exchange.events
      rw [hcalls, hmade.replays]
    have hdatabase : Exchange.databaseCalls env.toAdapterEnv ⟨r, s, response, s'⟩ = shapesOf env.toAdapterEnv xs := by
      unfold Exchange.databaseCalls shapesOf
      rw [hcalls, List.filterMap_map]
      rfl
    refine ⟨response, s', rfl, ⟨?_, ?_, ?_, ?_⟩⟩
    · rwa [hcalls, hevents]
    · rwa [hdatabase]
    · rw [hdatabase]
      exact fun hs => (hwhole hs).1
    · rw [hevents]
      exact fun hs => (hwhole hs).2

/-- The first exchange, and those after it. -/
theorem exchanges_cons (r : BrowserRequest) (requests : List BrowserRequest) (s : ServerState) :
    ∃ response s', Exchange.Planned env settings ⟨r, s, response, s'⟩ ∧
      respond env settings app r s = .ok response s' ∧ exchanges env settings app (r :: requests) s =
        ⟨r, s, response, s'⟩ :: exchanges env settings app requests s' := by
  obtain ⟨response, s', hr, hplanned⟩ := respond_planned env settings app r s
  refine ⟨response, s', hplanned, hr, ?_⟩
  rw [exchanges, hr]

theorem serve_exchanges (requests : List BrowserRequest) (s₀ : ServerState) :
    ∃ s, serve env settings app requests s₀ =
      .ok ((exchanges env settings app requests s₀).map Exchange.response) s := by
  induction requests generalizing s₀ with
  | nil => exact ⟨s₀, rfl⟩
  | cons r requests ih =>
    obtain ⟨response, s₁, -, hr, hexchanges⟩ := exchanges_cons env settings app r requests s₀
    obtain ⟨s, hrun⟩ := ih s₁
    refine ⟨s, ?_⟩
    rw [hexchanges]
    unfold serve at hrun ⊢
    rw [List.mapM_cons]
    show EStateM.bind _ _ s₀ = _
    simp only [EStateM.bind, hr]
    show EStateM.bind _ _ s₁ = _
    simp only [EStateM.bind, hrun]
    rfl

private theorem exchanges_request (requests : List BrowserRequest) (s₀ : ServerState) :
    (exchanges env settings app requests s₀).map Exchange.request = requests := by
  induction requests generalizing s₀ with
  | nil => rfl
  | cons r requests ih =>
    obtain ⟨response, s₁, -, -, hexchanges⟩ := exchanges_cons env settings app r requests s₀
    rw [hexchanges, List.map_cons, ih]

private theorem exchanges_planned (requests : List BrowserRequest) (s₀ : ServerState) :
    ∀ x ∈ exchanges env settings app requests s₀, x.Planned env settings := by
  induction requests generalizing s₀ with
  | nil => exact fun x hx => by cases hx
  | cons r requests ih =>
    obtain ⟨response, s₁, hplanned, -, hexchanges⟩ :=
      exchanges_cons env settings app r requests s₀
    intro x hx
    rw [hexchanges] at hx
    rcases List.mem_cons.1 hx with rfl | hx
    · exact hplanned
    · exact ih s₁ x hx

/-- A call of a run meets one of its services. -/
theorem exchanges_meet (requests : List BrowserRequest) (s₀ : ServerState) :
    ∀ x ∈ exchanges env settings app requests s₀, ∀ c ∈ x.calls, ∃ n, c.service = s₀.meets n := by
  induction requests generalizing s₀ with
  | nil => exact fun x hx => by cases hx
  | cons r requests ih =>
    obtain ⟨response, s₁, hplanned, -, hexchanges⟩ := exchanges_cons env settings app r requests s₀
    intro x hx c hc
    rw [hexchanges] at hx
    rcases List.mem_cons.1 hx with rfl | hx
    · have hservice := List.mem_map_of_mem (f := LoggedCall.service) hc
      rw [hplanned.made.services] at hservice
      obtain ⟨n, -, hn⟩ := List.mem_map.1 hservice
      exact ⟨n, hn.symm⟩
    · obtain ⟨n, hn⟩ := ih s₁ x hx c hc
      have hmeets : s₁.meets = fun n => s₀.meets (n + _) := hplanned.made.meets
      rw [hmeets] at hn
      exact ⟨_, hn⟩

end Exchanges

end BrowserRoutes

/-- From any state, and with any answers of the other services, the requests of a list are all answered.  For each,
the database calls of the log are a part of its plan, from the first on, and the whole plan where the request
succeeds. -/
theorem requests_follow_plan (env : BackendEnv) (settings : AuthSettings) (app : AppState)
    (requests : List BrowserRequest) (s₀ : ServerState) :
    (∃ s, BrowserRoutes.serve env settings app requests s₀ =
      .ok ((BrowserRoutes.exchanges env settings app requests s₀).map Exchange.response) s) ∧
    (BrowserRoutes.exchanges env settings app requests s₀).map Exchange.request = requests ∧
    ∀ x ∈ BrowserRoutes.exchanges env settings app requests s₀, x.Planned env settings :=
  ⟨BrowserRoutes.serve_exchanges env settings app requests s₀,
    BrowserRoutes.exchanges_request env settings app requests s₀,
    BrowserRoutes.exchanges_planned env settings app requests s₀⟩

/-! ### The sessions of a run -/

private theorem Database.mapIdentity_sessionOf (db : Database) (now : Int) (call : MapIdentityCall)
    (pick : Nat) (k : Bytea) : (db.mapIdentity now call pick).1.sessionOf k = db.sessionOf k := by
  unfold Database.mapIdentity
  split <;> rfl

private theorem sessionHistory_append (es es' : List DbEvent) :
    sessionHistory (es ++ es') = sessionHistory es' ++ sessionHistory es := by
  unfold sessionHistory
  rw [List.filterMap_append, List.reverse_append]

/-- A call keeps the rows in step with the history of the session calls. -/
private theorem tracks_run (env : AdapterEnv) {db : Database} {es : List DbEvent}
    (hT : ∀ h, Tracks (sessionHistory es) h (db.sessionOf h)) (x : LoggedCall) (h : Bytea) :
    Tracks (sessionHistory (es ++ (x.run env db).2.toList)) h ((x.run env db).1.sessionOf h) := by
  rcases x.run_cases env db with hrun | ⟨call, c, -, -, hrun⟩ | ⟨call, hrun⟩
  · rw [hrun, Option.toList_none, List.append_nil]
    exact hT h
  · rw [hrun, sessionHistory_append]
    exact tracks_exec hT x.service.now c h
  · rw [hrun, sessionHistory_append]
    dsimp only
    rw [Database.mapIdentity_sessionOf]
    exact hT h

private theorem tracks_replay (env : AdapterEnv) {db : Database} {es : List DbEvent}
    (hT : ∀ h, Tracks (sessionHistory es) h (db.sessionOf h)) (xs : List LoggedCall) (h : Bytea) :
    Tracks (sessionHistory (es ++ (replay env db xs).2)) h ((replay env db xs).1.sessionOf h) := by
  induction xs generalizing db es with
  | nil =>
    rw [replay, List.append_nil]
    exact hT h
  | cons x xs ih =>
    have hrest := ih (tracks_run env hT x)
    rw [List.append_assoc] at hrest
    exact hrest

/-- The first event of a list of calls is that of one of them, from the same database. -/
private theorem replay_head {env : AdapterEnv} {db : Database} {xs : List LoggedCall} {e : DbEvent}
    {es : List DbEvent} (h : (replay env db xs).2 = e :: es) : ∃ x ∈ xs, (x.run env db).2 = some e := by
  induction xs with
  | nil => cases h
  | cons x xs ih =>
    have hx : (x.run env db).2 = none ∧ (x.run env db).1 = db ∨ ∃ e', (x.run env db).2 = some e' := by
      rcases x.run_cases env db with hrun | ⟨call, c, -, -, hrun⟩ | ⟨call, hrun⟩
      · exact Or.inl ⟨by rw [hrun], by rw [hrun]⟩
      · exact Or.inr ⟨_, by rw [hrun]⟩
      · exact Or.inr ⟨_, by rw [hrun]⟩
    have hall : (x.run env db).2.toList ++ (replay env (x.run env db).1 xs).2 = e :: es := h
    rcases hx with ⟨hnone, hdb⟩ | ⟨e', he'⟩
    · rw [hnone, hdb] at hall
      obtain ⟨y, hy, hrun⟩ := ih hall
      exact ⟨y, List.mem_cons_of_mem _ hy, hrun⟩
    · rw [he'] at hall
      cases hall
      exact ⟨x, List.mem_cons_self, he'⟩

/-- A call that has run `get_user_session` is one of `get`, at its own time. -/
private theorem LoggedCall.get_of_run {env : AdapterEnv} {db : Database} {x : LoggedCall} {t : Int} {h : Bytea}
    {reply : SessionReply} (hrun : (x.run env db).2 = some (.session ⟨t, .get h, reply⟩)) :
    x.call.shape env = some (.get h) ∧ x.service.now = t ∧ ((SessionCall.get h).exec db t).2 = reply := by
  rcases x.run_cases env db with hr | ⟨call, c, hcall, hc, hr⟩ | ⟨call, hr⟩
  · rw [hr] at hrun
    cases hrun
  · rw [hr] at hrun
    cases hrun
    refine ⟨?_, rfl, rfl⟩
    rw [hcall]
    cases call with
    | get token =>
      cases hc
      rfl
    | create p =>
      obtain ⟨_, _, _, _, hc⟩ := AdapterEnv.sessionCall_create hc
      cases hc
    | revokeAll userId tenantId =>
      obtain ⟨_, _, hc⟩ := AdapterEnv.sessionCall_revokeAll hc
      cases hc
    | touch _ _ | rotate _ | revoke _ => cases hc
  · rw [hr] at hrun
    cases hrun

/-- `get_user_session` finds a session that is valid by the history. -/
private theorem Tracks.get_ok {db : Database} {H : History} {h : Bytea} {t : Int} {d : ActiveSession}
    (hT : Tracks H h (db.sessionOf h)) (hg : db.getUserSession t h = .ok d) :
    ValidAt H h t ∧ OwnedBy H h d.userId d.tenantId := by
  cases hs : db.sessionOf h with
  | none =>
    rw [Database.getUserSession_none t hs] at hg
    cases hg
  | some s =>
    rw [hs] at hT
    have hrow : TracksRow H h s := hT
    obtain ⟨u, -, hget⟩ := Database.getUserSession_some t hs
    rw [hget] at hg
    cases hc : s.check t with
    | error e =>
      rw [hc] at hg
      cases hg
    | ok _ =>
      rw [hc] at hg
      cases hg
      obtain ⟨hrev, ha, hi⟩ := UserSession.check_ok.1 hc
      obtain ⟨start, a, last, idleTtl, hstart, hlast, hu, ht, habs, hidle⟩ := hrow.expiry
      refine ⟨⟨hrow.inserted, fun hr => ?_, start, a, last, idleTtl, hstart, hlast, by omega, by omega⟩,
        start, a, hstart, hu.symm, ht.symm⟩
      rw [← hrow.revoked, hrev] at hr
      cases hr

private theorem Retired.append {H : History} {h : Bytea} (hr : Retired H h) (H' : History) : Retired (H' ++ H) h := by
  induction H' with
  | nil => exact hr
  | cons e H' ih => exact Or.inl ih

private theorem Inserted.append {H : History} {h : Bytea} (hi : Inserted H h) (H' : History) : Inserted (H' ++ H) h :=
  let ⟨e, he, h⟩ := hi
  ⟨e, List.mem_append_right _ he, h⟩

/-- An event that ends an inserted session retires it. -/
private theorem DbEvent.Ends.retired {es : List DbEvent} {e : DbEvent} {h : Bytea} (hends : e.Ends h)
    (he : e ∈ es) {H : History} (hi : Inserted H h) : Retired (sessionHistory es ++ H) h := by
  obtain ⟨es₁, es₂, rfl⟩ := List.append_of_mem he
  rw [sessionHistory_append, List.append_assoc]
  have hi₁ := hi.append (sessionHistory es₁)
  rw [← List.singleton_append, sessionHistory_append]
  simp only [List.append_assoc]
  refine Retired.append ?_ _
  cases e with
  | identity _ _ _ _ => exact hends.elim
  | session e =>
    obtain ⟨time, call, reply⟩ := e
    cases call with
    | create _ _ | get _ | touch _ _ | revokeAll _ _ => exact hends.elim
    | revoke h' => exact Or.inr ⟨hi₁, hends⟩
    | rotate id a =>
      cases reply with
      | created d => exact Or.inr ⟨hi₁, hends, rfl⟩
      | session _ | touched _ | revoked | revokedCount _ | failed _ | aborted _ => exact hends.elim

def BrowserRoute.authenticated : BrowserRoute → Bool
  | me | refresh | logout => true
  | login | callback => false

def BrowserRoute.endsSession : BrowserRoute → Bool
  | refresh | logout => true
  | login | callback | me => false

private theorem BrowserRoute.authenticated_of_endsSession {r : BrowserRoute} (h : r.endsSession = true) :
    r.authenticated = true := by
  cases r with
  | refresh | logout => rfl
  | login | callback | me => cases h

section Run

variable {env : BackendEnv} {settings : AuthSettings} {app : AppState} {x : Exchange}

private theorem BrowserRequest.Resolves.resolved {r : BrowserRequest} {es : List DbEvent} {response : HttpResponse}
    (h : r.Resolves env settings es response) (hr : r.route.authenticated = true) :
    ∃ d, Resolved (r.tokenHash env settings) es d ∧ (r.route = .me →
      ∃ requestId, response = jsonResponse 200 (BrowserRoutes.meBody requestId d)) := by
  unfold Resolves at h
  cases hroute : r.route with
  | login | callback =>
    rw [hroute] at hr
    cases hr
  | me =>
    rw [hroute] at h
    obtain ⟨d, hd, hbody⟩ := h
    exact ⟨d, hd, fun _ => hbody⟩
  | refresh | logout =>
    rw [hroute] at h
    obtain ⟨d, hd, -⟩ := h
    exact ⟨d, hd, fun he => by cases he⟩

private theorem BrowserRequest.Resolves.ended {r : BrowserRequest} {es : List DbEvent} {response : HttpResponse}
    (h : r.Resolves env settings es response) (hr : r.route.endsSession = true) :
      Ended (r.tokenHash env settings) es := by
  unfold Resolves at h
  cases hroute : r.route with
  | login | callback | me =>
    rw [hroute] at hr
    cases hr
  | refresh | logout =>
    rw [hroute] at h
    obtain ⟨d, -, hends⟩ := h
    exact hends

/-- The functions of the database that the requests of a run ran. -/
def eventsOf (env : AdapterEnv) (log : List Exchange) : List DbEvent := log.flatMap (Exchange.events env)

/-- The exchanges before one keep the rows in step with the history of their session calls. -/
private theorem BrowserRoutes.tracks_exchanges {requests : List BrowserRequest} {s₀ : ServerState} {es : List DbEvent}
    (hT : ∀ h, Tracks (sessionHistory es) h (s₀.db.sessionOf h)) {pre post : List Exchange}
    (hrun : exchanges env settings app requests s₀ = pre ++ x :: post) (h : Bytea) :
    Tracks (sessionHistory (es ++ eventsOf env.toAdapterEnv pre)) h (x.before.db.sessionOf h) := by
  induction pre generalizing requests s₀ es with
  | nil =>
    rw [eventsOf, List.flatMap_nil, List.append_nil]
    cases requests with
    | nil => cases hrun
    | cons r requests =>
      obtain ⟨response, s', -, -, hcons⟩ := exchanges_cons env settings app r requests s₀
      cases hcons.symm.trans hrun
      exact hT h
  | cons y pre ih =>
    cases requests with
    | nil => cases hrun
    | cons r requests =>
      obtain ⟨response, s', hplanned, -, hcons⟩ := exchanges_cons env settings app r requests s₀
      obtain ⟨rfl, hrest⟩ := List.cons.inj (hcons.symm.trans hrun)
      have hafter : ∀ h, Tracks (sessionHistory (es ++ Exchange.events env.toAdapterEnv ⟨r, s₀, response, s'⟩)) h
          (s'.db.sessionOf h) := fun h => by
        have hreplay := tracks_replay env.toAdapterEnv hT (Exchange.calls ⟨r, s₀, response, s'⟩) h
        rwa [hplanned.made.replays] at hreplay
      have hrest := ih hafter hrest
      rw [List.append_assoc] at hrest
      exact hrest

/-- The session that a request of a run from an empty table has found, by the history of the run before it. -/
private theorem BrowserRoutes.valid_of_resolved {requests : List BrowserRequest} {ids : IdentityTables}
    {meets : Nat → Service} {pre post : List Exchange}
    (hrun : exchanges env settings app requests ⟨.empty ids, meets, []⟩ = pre ++ x :: post)
    {h : Bytea} {d : ActiveSession} {t : Int} {es : List DbEvent}
    (hes : x.events env.toAdapterEnv = .session ⟨t, .get h, .session d⟩ :: es) :
    ∃ c ∈ x.calls, c.call.shape env.toAdapterEnv = some (.get h) ∧
      ValidAt (sessionHistory (eventsOf env.toAdapterEnv pre)) h c.service.now ∧
      OwnedBy (sessionHistory (eventsOf env.toAdapterEnv pre)) h d.userId d.tenantId := by
  have hempty : ∀ h, Tracks (sessionHistory []) h ((Database.empty ids).sessionOf h) := fun h => by
    simp [Database.sessionOf_empty, Tracks, Inserted, sessionHistory]
  have hT := tracks_exchanges hempty hrun h
  obtain ⟨c, hc, hget⟩ := replay_head hes
  obtain ⟨hshape, rfl, hexec⟩ := LoggedCall.get_of_run hget
  have hg : x.before.db.getUserSession c.service.now h = .ok d := by
    cases hg : x.before.db.getUserSession c.service.now h with
    | error e =>
      rw [SessionCall.exec, hg] at hexec
      cases hexec
    | ok d' =>
      rw [SessionCall.exec, hg] at hexec
      cases hexec
      rfl
  obtain ⟨hvalid, howned⟩ := hT.get_ok hg
  exact ⟨c, hc, hshape, hvalid, howned⟩

end Run

/-- In a run of the server from an empty table, a request of `me`, `refresh` or `logout` that succeeds presents a
session that is valid by the calls before it, at the time of its own call that looks the session up, and gets the user
and the tenant whose `create` started the chain of the session. -/
theorem accepted_sessions_valid (env : BackendEnv) (settings : AuthSettings) (app : AppState)
    (requests : List BrowserRequest) (ids : IdentityTables) (meets : Nat → Service) :
    (∃ s, BrowserRoutes.serve env settings app requests ⟨.empty ids, meets, []⟩ =
      .ok ((BrowserRoutes.exchanges env settings app requests ⟨.empty ids, meets, []⟩).map Exchange.response) s) ∧
    ∀ pre x post, BrowserRoutes.exchanges env settings app requests ⟨.empty ids, meets, []⟩ = pre ++ x :: post →
      x.request.route.authenticated = true → x.response.status < 400 →
        ∃ h d, x.request.tokenHash env settings = some h ∧
          (∃ c ∈ x.calls, c.call.shape env.toAdapterEnv = some (.get h) ∧
            ValidAt (sessionHistory (eventsOf env.toAdapterEnv pre)) h c.service.now) ∧
          OwnedBy (sessionHistory (eventsOf env.toAdapterEnv pre)) h d.userId d.tenantId ∧
          (x.request.route = .me → ∃ requestId, x.response =
            jsonResponse 200 (BrowserRoutes.meBody requestId d)) := by
  refine ⟨BrowserRoutes.serve_exchanges env settings app requests _, fun pre x post hrun hroute hok => ?_⟩
  have hx : x ∈ BrowserRoutes.exchanges env settings app requests ⟨.empty ids, meets, []⟩ :=
    hrun ▸ List.mem_append_right _ List.mem_cons_self
  have hplanned := BrowserRoutes.exchanges_planned env settings app requests _ x hx
  obtain ⟨d, ⟨h, t, es, hh, hes⟩, hbody⟩ := (hplanned.resolves hok).resolved hroute
  obtain ⟨c, hc, hshape, hvalid, howned⟩ := BrowserRoutes.valid_of_resolved hrun hes
  exact ⟨h, d, hh, ⟨c, hc, hshape, hvalid⟩, howned, hbody⟩

/-- In a run of the server from an empty table, the session cookie of a `refresh` or `logout` that succeeds is refused
by every later request. -/
theorem ended_sessions_refused (env : BackendEnv) (settings : AuthSettings) (app : AppState)
    (requests : List BrowserRequest) (ids : IdentityTables) (meets : Nat → Service) :
    (∃ s, BrowserRoutes.serve env settings app requests ⟨.empty ids, meets, []⟩ =
      .ok ((BrowserRoutes.exchanges env settings app requests ⟨.empty ids, meets, []⟩).map Exchange.response) s) ∧
    ∀ pre x mid y post,
      BrowserRoutes.exchanges env settings app requests ⟨.empty ids, meets, []⟩ = pre ++ x :: (mid ++ y :: post) →
      x.request.route.endsSession = true → x.response.status < 400 → y.request.route.authenticated = true →
        y.request.tokenHash env settings = x.request.tokenHash env settings → 400 ≤ y.response.status := by
  refine ⟨BrowserRoutes.serve_exchanges env settings app requests _, ?_⟩
  intro pre x mid y post hrun hends hok hroute hsame
  by_contra hy
  have hrun' : BrowserRoutes.exchanges env settings app requests ⟨.empty ids, meets, []⟩ =
      (pre ++ x :: mid) ++ y :: post := by
    rw [hrun, List.append_assoc, List.cons_append]
  have hplanned := BrowserRoutes.exchanges_planned env settings app requests ⟨.empty ids, meets, []⟩
  have hx := (hplanned x (hrun ▸ List.mem_append_right _ List.mem_cons_self)).resolves hok
  have hy := (hplanned y (hrun' ▸ List.mem_append_right _ List.mem_cons_self)).resolves (Nat.not_le.1 hy)
  obtain ⟨k, hk, e, he, hretires⟩ := hx.ended hends
  obtain ⟨d, ⟨h, t, es, hh, hes⟩, -⟩ := hx.resolved (BrowserRoute.authenticated_of_endsSession hends)
  obtain ⟨d', ⟨h', t', es', hh', hes'⟩, -⟩ := hy.resolved hroute
  cases hk.symm.trans hh
  cases hh'.symm.trans (hsame.trans hk)
  obtain ⟨c, -, -, hvalid, -⟩ := BrowserRoutes.valid_of_resolved hrun hes
  obtain ⟨c', -, -, hvalid', -⟩ := BrowserRoutes.valid_of_resolved hrun' hes'
  refine hvalid'.2.1 ?_
  unfold eventsOf
  rw [List.flatMap_append, List.flatMap_cons, sessionHistory_append, sessionHistory_append, List.append_assoc]
  exact (hretires.retired he hvalid.1).append _

end CleanBackend
