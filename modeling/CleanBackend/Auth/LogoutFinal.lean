import CleanBackend.Auth.RoutesAgree
import CleanBackend.Lib.Succession

/-!
# Logout against refreshes

Every refresh puts a new token in the place of the old one, so the tokens of a login are a line of descent from the
token the callback issued.  `logout` revokes the token its request presents.  When a refresh has replaced that token
in the meantime the revoke finds a revoked session and does nothing, and the successor stays valid although the answer
is 200.  When it has not, no token of the login is resolved any more (`logout_final`).  The condition is the right
one: where every revoke comes too late, the login keeps an unrevoked session (`unrevoked_of_late_revokes`).
-/

namespace CleanBackend

variable {σ : Type}

/-! ### The statements -/

/-- Once the logout request `l` of this login has answered 200, no token of the login is resolved. -/
def AuthState.LogoutFinal (S : SessionStore σ) (login : String) (l : Nat) (s : AuthState σ) : Prop :=
  ∀ r response, s.requests[l]? = some (r, .answered response) → r.route = .logout → response.status = 200 →
    Descends login s.rotations r.sessionToken →
    ∀ t, Descends login s.rotations t → ∀ now i d dto, (S.exec s.store ⟨now, .get t, i, d⟩).2 ≠ .session dto

/-- `generate_session_token` does not repeat: the token a rotation brings is neither the one of the login, nor part of
an earlier rotation, nor presented by a request so far. -/
def FreshTokens (login : String) (s : AuthState σ) (a : AuthAction) : Prop :=
  ∀ i ∈ a.caller, ∀ x ∈ s.requests[i]?, ∀ t ∈ x.2.mints,
    FreshFor login s.rotations t ∧ ∀ y ∈ s.requests, y.1.sessionToken ≠ t

/-- When the revoke of request `l` runs, no rotation has replaced the token it presents. -/
def RevokesInTime (l : Nat) (s : AuthState σ) (a : AuthAction) : Prop :=
  l ∈ a.caller → ∀ x ∈ s.requests[l]?, x.2 = .revoking → ∀ e ∈ s.rotations, e.1 ≠ x.1.sessionToken

/-- Every revoke comes after a rotation of the token it presents, where that is a token of the login. -/
def RevokesLate (login : String) (s : AuthState σ) (a : AuthAction) : Prop :=
  ∀ i ∈ a.caller, ∀ x ∈ s.requests[i]?, x.2 = .revoking → Descends login s.rotations x.1.sessionToken →
    ∃ e ∈ s.rotations, e.1 = x.1.sessionToken

instance (login : String) (s : AuthState σ) (a : AuthAction) : Decidable (FreshTokens login s a) :=
  inferInstanceAs (Decidable (∀ i ∈ a.caller, ∀ x ∈ s.requests[i]?, ∀ t ∈ x.2.mints, _))

instance (l : Nat) (s : AuthState σ) (a : AuthAction) : Decidable (RevokesInTime l s a) :=
  inferInstanceAs (Decidable (l ∈ a.caller → ∀ x ∈ s.requests[l]?, x.2 = .revoking → _))

section View

variable {τ : Type} {login : String} {l : Nat} {s : AuthState σ} {t : AuthState τ} {a : AuthAction}

private theorem FreshTokens.of_view (hv : s.view = t.view) (h : FreshTokens login s a) : FreshTokens login t a := by
  intro i hi y hy u hu
  obtain ⟨x, hx, -, hmints, -⟩ := AuthState.mints_view hv hy
  obtain ⟨hfor, hpresented⟩ := h i hi x hx u (hmints ▸ hu)
  have hrotations : s.rotations = t.rotations := congrArg AuthState.rotations hv
  refine ⟨hrotations ▸ hfor, fun z hz => ?_⟩
  obtain ⟨j, hj⟩ := List.getElem?_of_mem hz
  obtain ⟨w, hw, hwz, -⟩ := AuthState.mints_view hv hj
  rw [← hwz]
  exact hpresented w (List.mem_of_getElem? hw)

private theorem RevokesInTime.of_view (hv : s.view = t.view) (h : RevokesInTime l s a) : RevokesInTime l t a := by
  intro hl y hy hrev e he
  obtain ⟨x, hx, hxy, -, hx'⟩ := AuthState.mints_view hv hy
  have hrotations : s.rotations = t.rotations := congrArg AuthState.rotations hv
  rw [← hxy]
  exact h hl x hx (hx' hrev) e (hrotations ▸ he)

end View

/-! ### What a step does to the tokens -/

/-- The tokens of `T` with an unrevoked session. -/
def SessionStore.Live (S : SessionStore σ) (T : List String) (s : σ) (t : String) : Prop := t ∈ T ∧ S.Unrevoked s t

section Effect

variable {S : SessionStore σ} {T : List String} {idleTtlSeconds : Int} {r : AuthRequest} {phase : AuthPhase}
  {call : RepositoryCall}

/-- A call of a route rotates, revokes or changes nothing. -/
private theorem SessionStore.Lawful.call_effect (hS : S.Lawful T) (ht : r.sessionToken ∈ T) (hf : phase.Fits T r)
    (hc : phase.nextCall idleTtlSeconds r.sessionToken = some call) (store : σ) (now : Int) (id : Uuid)
    (draws : Draws) :
    (call.rotation (S.exec store ⟨now, call, id, draws⟩).2 = [] ∧ phase ≠ .revoking ∧
      ∀ t, S.Live T (S.exec store ⟨now, call, id, draws⟩).1 t ↔ S.Live T store t) ∨
    (∃ params, phase = .rotating params ∧ params.oldSessionToken = r.sessionToken ∧
      call.rotation (S.exec store ⟨now, call, id, draws⟩).2 = [(r.sessionToken, params.newSessionToken)] ∧
      S.Live T store r.sessionToken ∧
      ∀ t, S.Live T (S.exec store ⟨now, call, id, draws⟩).1 t ↔
        t = params.newSessionToken ∨ (t ≠ r.sessionToken ∧ S.Live T store t)) ∨
    (phase = .revoking ∧ call.rotation (S.exec store ⟨now, call, id, draws⟩).2 = [] ∧
      ∀ t, S.Live T (S.exec store ⟨now, call, id, draws⟩).1 t ↔ t ≠ r.sessionToken ∧ S.Live T store t) := by
  cases phase with
  | resolving | reading =>
    cases hc
    refine Or.inl ⟨rfl, nofun, fun t => ?_⟩
    rw [hS.get]
  | touching dto =>
    cases hc
    refine Or.inl ⟨rfl, nofun, fun t => ?_⟩
    exact and_congr_right fun _ => hS.touch store now r.sessionToken idleTtlSeconds id draws t
  | refreshing dto | loggingOut dto | answered response => cases hc
  | rotating params =>
    cases hc
    obtain ⟨-, hold, hnew⟩ := hf
    -- a rotation that creates nothing changes nothing
    by_cases hcreated : ∃ dto, (S.exec store ⟨now, .rotate params, id, draws⟩).2 = .created dto
    · obtain ⟨dto, hdto⟩ := hcreated
      obtain ⟨hlive, hafter⟩ := hS.rotate (hold.symm ▸ ht) hnew hdto
      rw [hold] at hlive hafter
      refine Or.inr (Or.inl ⟨params, rfl, hold, ?_, ⟨ht, hlive⟩, fun t => ?_⟩)
      · rw [hdto, RepositoryCall.rotation, hold]
      · constructor
        · rintro ⟨hmem, hu⟩
          exact ((hafter t hmem).1 hu).imp_right fun ⟨hne, hu⟩ => ⟨hne, hmem, hu⟩
        · rintro (rfl | ⟨hne, hmem, hu⟩)
          · exact ⟨hnew, (hafter _ hnew).2 (Or.inl rfl)⟩
          · exact ⟨hmem, (hafter t hmem).2 (Or.inr ⟨hne, hu⟩)⟩
    · have hno : ∀ dto, (S.exec store ⟨now, .rotate params, id, draws⟩).2 ≠ .created dto :=
        fun dto hdto => hcreated ⟨dto, hdto⟩
      refine Or.inl ⟨?_, nofun, fun t => ?_⟩
      · unfold RepositoryCall.rotation
        split
        · rename_i dto _ hdto
          exact absurd hdto (hno dto)
        · rfl
      · rw [hS.rotate_raised hno]
  | revoking =>
    cases hc
    refine Or.inr (Or.inr ⟨rfl, rfl, fun t => ?_⟩)
    constructor
    · rintro ⟨hmem, hu⟩
      obtain ⟨hne, hu⟩ := (hS.revoke store now id draws ht t hmem).1 hu
      exact ⟨hne, hmem, hu⟩
    · rintro ⟨hne, hmem, hu⟩
      exact ⟨hmem, (hS.revoke store now id draws ht t hmem).2 ⟨hne, hu⟩⟩

end Effect

/-! ### The invariant -/

/-- The tokens of the login follow one another, and those that the requests hold are among `T`. -/
structure TokensInv (S : SessionStore σ) (T : List String) (login : String) (s : AuthState σ) : Prop where
  succession : Succession login s.rotations (S.Live T s.store)
  known : ∀ e ∈ s.rotations, e.2 ∈ T
  requests : s.Fits T

/-- Once request `l` has logged out of this login, no token of it has an unrevoked session. -/
def LoggedOut (S : SessionStore σ) (T : List String) (login : String) (l : Nat) (s : AuthState σ) : Prop :=
  ∀ r, s.requests[l]? = some (r, .answered .loggedOut) → Descends login s.rotations r.sessionToken →
    Extinct login s.rotations (S.Live T s.store)

section Invariant

variable {S : SessionStore σ} {T : List String} {login : String} {l : Nat} {idleTtlSeconds : Int} {s s' : AuthState σ}
  {a : AuthAction}

private theorem TokensInv.initial (S : SessionStore σ) (T : List String) (login : String) (store : σ) :
    TokensInv S T login (.init store) where
  succession := .initial login _
  known _ he := nomatch he
  requests _ hx := nomatch hx

private theorem TokensInv.step (h : TokensInv S T login s) (hS : S.Lawful T) (ht : ∀ t ∈ a.tokens, t ∈ T)
    (hfresh : FreshTokens login s a) (hstep : AuthStep S idleTtlSeconds s a s') : TokensInv S T login s' := by
  have hrequests := h.requests.step ht hstep
  cases hstep with
  | arrive _ | gotrue _ _ | abort _ _ => exact ⟨h.succession, h.known, hrequests⟩
  | @call i r phase call now id draws hi hc =>
    have hmem : (r, phase) ∈ s.requests := List.mem_of_getElem? hi
    obtain ⟨hr, hf⟩ := h.requests _ hmem
    rcases hS.call_effect hr hf hc s.store now id draws with
      ⟨hrot, -, hlive⟩ | ⟨params, rfl, -, hrot, hold, hlive⟩ | ⟨-, hrot, hlive⟩
    · rw [hrot] at hrequests ⊢
      exact ⟨h.succession.mono fun t => (hlive t).1, h.known, hrequests⟩
    · rw [hrot] at hrequests ⊢
      obtain ⟨hfor, hpresented⟩ := hfresh i rfl _ hi _ rfl
      refine ⟨h.succession.replace hfor (hpresented _ hmem) hold fun t => (hlive t).1, fun e he => ?_, hrequests⟩
      rcases List.mem_cons.1 he with rfl | he
      · exact hf.2.2
      · exact h.known e he
    · rw [hrot] at hrequests ⊢
      exact ⟨h.succession.mono fun t hl => ((hlive t).1 hl).2, h.known, hrequests⟩

private theorem LoggedOut.step (h : LoggedOut S T login l s) (hs : TokensInv S T login s) (hS : S.Lawful T)
    (hfresh : FreshTokens login s a) (htime : RevokesInTime l s a) (hstep : AuthStep S idleTtlSeconds s a s') :
    LoggedOut S T login l s' := by
  intro r' hl hd
  cases hstep with
  | arrive r =>
    have hl : (s.requests ++ [(r, r.enter)])[l]? = some (r', .answered .loggedOut) := hl
    rw [List.getElem?_append] at hl
    split at hl
    · exact h r' hl hd
    · -- a request does not arrive with the answer of a logout
      obtain ⟨-, heq⟩ := Prod.mk.inj (List.mem_singleton.1 (List.mem_of_getElem? hl))
      rcases r.enter_cases with ⟨e, he⟩ | he
      · exact absurd (heq.trans he).symm (AuthPhase.raise_ne e)
      · cases heq.trans he
  | @call i r phase call now id draws hi hc =>
    have hmem : (r, phase) ∈ s.requests := List.mem_of_getElem? hi
    obtain ⟨hr, hf⟩ := hs.requests _ hmem
    -- a request that has its answer makes no call
    have hdone : phase ≠ .answered .loggedOut := by
      rintro rfl
      cases hc
    rcases hS.call_effect hr hf hc s.store now id draws with
      ⟨hrot, hphase, hlive⟩ | ⟨params, rfl, -, hrot, hold, hlive⟩ | ⟨rfl, hrot, hlive⟩
    · rw [hrot] at hd ⊢
      rcases getElem?_set_cases hl with ⟨-, heq⟩ | ⟨-, hl⟩
      · rcases AuthPhase.resume_loggedOut (Prod.mk.inj heq).2.symm with hp | hp
        · exact absurd hp hphase
        · exact absurd hp hdone
      · exact (h r' hl hd).mono fun t => (hlive t).1
    · rw [hrot] at hd ⊢
      obtain ⟨hfor, hpresented⟩ := hfresh i rfl _ hi _ rfl
      have hne : r.sessionToken ≠ params.newSessionToken := hpresented _ hmem
      rcases getElem?_set_cases hl with ⟨-, heq⟩ | ⟨-, hl⟩
      · rcases AuthPhase.resume_loggedOut (Prod.mk.inj heq).2.symm with hp | hp
        · cases hp
        · cases hp
      · -- the logout presented its token before the rotation drew the new one
        have hd := (hd.of_cons hfor hne).resolve_right fun hr => hpresented _ (List.mem_of_getElem? hl) hr.2
        exact (h r' hl hd).replace hfor hne hold fun t => (hlive t).1
    · rw [hrot] at hd ⊢
      rcases getElem?_set_cases hl with ⟨rfl, heq⟩ | ⟨-, hl⟩
      · cases (Prod.mk.inj heq).1
        exact hs.succession.extinct_of_revoke hd (htime rfl _ hi rfl) fun t => (hlive t).1
      · exact (h r' hl hd).mono fun t hlv => ((hlive t).1 hlv).2
  | gotrue hi hg =>
    rcases getElem?_set_cases hl with ⟨-, heq⟩ | ⟨-, hl⟩
    · exact absurd (Prod.mk.inj heq).2.symm (AuthRequest.afterGoTrue_ne hg)
    · exact h r' hl hd
  | abort hi _ =>
    rcases getElem?_set_cases hl with ⟨-, heq⟩ | ⟨-, hl⟩
    · exact absurd (Prod.mk.inj heq).2.symm (AuthPhase.raise_ne _)
    · exact h r' hl hd

/-- A revoke that comes too late leaves the login with an unrevoked session. -/
private theorem TokensInv.survivor_step (hs : TokensInv S T login s) (hS : S.Lawful T) (hlate : RevokesLate login s a)
    (hstep : AuthStep S idleTtlSeconds s a s') (h : ∃ t, Descends login s.rotations t ∧ S.Live T s.store t) :
    ∃ t, Descends login s'.rotations t ∧ S.Live T s'.store t := by
  cases hstep with
  | arrive _ | gotrue _ _ | abort _ _ => exact h
  | @call i r phase call now id draws hi hc =>
    obtain ⟨hr, hf⟩ := hs.requests _ (List.mem_of_getElem? hi)
    rcases hS.call_effect hr hf hc s.store now id draws with
      ⟨hrot, -, hlive⟩ | ⟨params, -, -, hrot, -, hlive⟩ | ⟨rfl, hrot, hlive⟩
    · rw [hrot]
      exact h.imp fun t ht => ⟨ht.1, (hlive t).2 ht.2⟩
    · rw [hrot]
      exact Descends.exists_live_of_replace h fun t => (hlive t).2
    · rw [hrot]
      obtain ⟨t, hd, hlv⟩ := h
      refine ⟨t, hd, (hlive t).2 ⟨?_, hlv⟩⟩
      rintro rfl
      obtain ⟨e, he, heq⟩ := hlate i rfl _ hi rfl hd
      exact hs.succession.replaced e he (heq ▸ hlv)

/-- What the invariant says of a logout that has answered. -/
private theorem TokensInv.logoutFinal (hs : TokensInv S T login s) (h : LoggedOut S T login l s) (hS : S.Lawful T)
    (hlogin : login ∈ T) : s.LogoutFinal S login l := by
  intro r response hl hroute hstatus hd t ht now i d dto hget
  have hfits := (hs.requests _ (List.mem_of_getElem? hl)).2
  have hresponse : response = .loggedOut := hfits hroute hstatus
  subst hresponse
  exact h r hl hd t ht ⟨ht.of_forall hlogin hs.known, hS.of_get hget⟩

/-! ### Runs -/

section Run

variable {as : List AuthAction} {store : σ}

/-- In every run in which the revoke of `l` comes in time, the logout is final. -/
private theorem logoutFinal_of_run (hS : S.Lawful T) (hlogin : login ∈ T) (ht : ∀ a ∈ as, ∀ t ∈ a.tokens, t ∈ T)
    (hrun : (authMachine S idleTtlSeconds).run (.init store) as = some s)
    (hc : (authMachine S idleTtlSeconds).Along (fun s a => FreshTokens login s a ∧ RevokesInTime l s a)
      (.init store) as) :
    s.LogoutFinal S login l := by
  have hinv : TokensInv S T login s ∧ LoggedOut S T login l s := by
    refine Machine.along_induction (P := fun s => TokensInv S T login s ∧ LoggedOut S T login l s) ?_ hrun
      (hc.and (Machine.Along.of_forall (fun a ha _ => ht a ha) _)) ⟨.initial S T login store, fun _ hl => nomatch hl⟩
    rintro s a s' ⟨hs, hl⟩ ⟨⟨hfresh, htime⟩, ht⟩ hstep
    have hstep := authMachine_step.1 hstep
    exact ⟨hs.step hS ht hfresh hstep, hl.step hs hS hfresh htime hstep⟩
  exact hinv.1.logoutFinal hinv.2 hS hlogin

/-- In every run in which the revokes of the login come too late, the login keeps an unrevoked session. -/
theorem unrevoked_of_late_revokes (hS : S.Lawful T) (hlogin : login ∈ T) (ht : ∀ a ∈ as, ∀ t ∈ a.tokens, t ∈ T)
    (hu : S.Unrevoked store login) (hrun : (authMachine S idleTtlSeconds).run (.init store) as = some s)
    (hc : (authMachine S idleTtlSeconds).Along (fun s a => FreshTokens login s a ∧ RevokesLate login s a)
      (.init store) as) : ∃ t, Descends login s.rotations t ∧ S.Unrevoked s.store t := by
  have hinv : TokensInv S T login s ∧ ∃ t, Descends login s.rotations t ∧ S.Live T s.store t := by
    refine Machine.along_induction
      (P := fun s => TokensInv S T login s ∧ ∃ t, Descends login s.rotations t ∧ S.Live T s.store t) ?_ hrun
      (hc.and (Machine.Along.of_forall (fun a ha _ => ht a ha) _))
      ⟨.initial S T login store, login, .root, hlogin, hu⟩
    rintro s a s' ⟨hs, hl⟩ ⟨⟨hfresh, hlate⟩, ht⟩ hstep
    have hstep := authMachine_step.1 hstep
    exact ⟨hs.step hS ht hfresh hstep, hs.survivor_step hS hlate hstep hl⟩
  obtain ⟨-, t, hd, -, hu⟩ := hinv
  exact ⟨t, hd, hu⟩

end Run

end Invariant

/-- A logout whose revoke comes before any rotation of the token it presents is final, over both repositories. -/
theorem logout_final (idleTtlSeconds : Int) {login : String} {l : Nat} {as : List AuthAction} :
    (∀ {fake : FakeSessionRepository} {s},
      (authMachine FakeSessionRepository.store idleTtlSeconds).run (.init fake) as = some s →
      (authMachine FakeSessionRepository.store idleTtlSeconds).Along
        (fun s a => FreshTokens login s a ∧ RevokesInTime l s a) (.init fake) as →
      s.LogoutFinal FakeSessionRepository.store login l) ∧
    ∀ {env : AdapterEnv} {db : Database} {s}, env.Lawful → env.Separates (login :: as.flatMap AuthAction.tokens) →
      (authMachine env.store idleTtlSeconds).run (.init db) as = some s →
      (authMachine env.store idleTtlSeconds).Along
        (fun s a => FreshTokens login s a ∧ RevokesInTime l s a) (.init db) as →
      s.LogoutFinal env.store login l := by
  have ht : ∀ a ∈ as, ∀ t ∈ a.tokens, t ∈ login :: as.flatMap AuthAction.tokens :=
    fun a ha t ht => List.mem_cons_of_mem _ (List.mem_flatMap.2 ⟨a, ha, ht⟩)
  constructor
  · intro fake s hrun hc
    exact logoutFinal_of_run (FakeSessionRepository.store_lawful _) List.mem_cons_self ht hrun hc
  · intro env db s henv hhash hrun hc
    exact logoutFinal_of_run (AdapterEnv.store_lawful henv hhash) List.mem_cons_self ht hrun hc

/-! ### A logout and a refresh of one session -/

def logoutRequest : AuthRequest := ⟨.logout, some "csrf", some "csrf", some "token-1"⟩

def sampleFake : FakeSessionRepository := (FakeSessionRepository.execStep ⟨[], sampleEmails⟩ sampleLogin).1

/-- Request `i` makes its next call. -/
def sampleCall (i : Nat) (id : Uuid) : AuthAction :=
  .call i 1767225600000000 id ⟨id, sampleDraw 3, sampleDraw 4⟩

/-- Both requests get to their last repository call: request 0 is to revoke, request 1 to rotate. -/
def bothPoised : List AuthAction :=
  [.arrive logoutRequest, .arrive refreshRequest, sampleCall 1 301, sampleCall 1 302, sampleCall 1 303,
    sampleCall 0 304, sampleCall 0 305, sampleCall 0 306,
    .gotrue 1 1767225600000000 (.tokens ⟨"access-2", "refresh-2", 86400⟩) "token-2",
    .gotrue 0 1767225600000000 .loggedOut "token-2"]

def revokeFirst : List AuthAction := bothPoised ++ [sampleCall 0 307, sampleCall 1 308]
def rotateFirst : List AuthAction := bothPoised ++ [sampleCall 1 307, sampleCall 0 308]

private theorem sampleEnv_separates : sampleEnv.Separates ["token-1", "token-2"] := by
  unfold AdapterEnv.Separates
  decide

private theorem sample_agree :
    RoutesAgree oneMember sampleEnv ["token-1", "token-2"] (.init sampleFake) (.init sampleDatabase) := by
  have hempty : Agree oneMember sampleEnv (fun _ => True) (fun _ _ => True) ["token-1", "token-2"]
      ⟨[], sampleEmails⟩ (Database.empty oneMember) := ⟨.nil, fun e he => (nomatch he), rfl, by decide⟩
  have hmem : sampleLogin.call.MemberIds oneMember := by
    have hid : "00000000-0000-0000-0000-000000000001" = uuidText 1 := by decide
    exact ⟨1, 1, hid, hid, by decide, by decide⟩
  have hregular : sampleLogin.Regular sampleEnv fun _ => True := by
    refine ⟨by decide, fun _ _ => rfl, ?_, fun _ _ => trivial⟩
    unfold RepositoryStep.ExpiriesInRange
    decide
  refine ⟨(hempty.step sampleEnv_lawful.toLawfulOn (fun _ _ => trivial) sampleEnv_separates hregular (by decide) hmem
    (fun _ _ => rfl) ?_ trivial).1, rfl, fun x hx => nomatch hx⟩
  exact fun h => nomatch h

/-- Over the database the two runs go as they go in memory. -/
private theorem sample_run {as : List AuthAction} (has : as = revokeFirst ∨ as = rotateFirst)
    {s : AuthState FakeSessionRepository}
    (hrun : (authMachine FakeSessionRepository.store 86400).run (.init sampleFake) as = some s)
    (hc : (authMachine FakeSessionRepository.store 86400).Along (RegularCall 86400) (.init sampleFake) as) :
    Supplied 86400 ["token-1", "token-2"] (.init sampleFake) (.init sampleDatabase) as ∧
      ∃ t, (authMachine sampleEnv.store 86400).run (.init sampleDatabase) as = some t ∧
        RoutesAgree oneMember sampleEnv ["token-1", "token-2"] s t := by
  have hs : Supplied 86400 ["token-1", "token-2"] (.init sampleFake) (.init sampleDatabase) as := by
    have hids : sampleDatabase.userSessions.map UserSession.id = [201] := by decide +kernel
    have hnew : 201 ∉ as.filterMap AuthAction.rowId := by rcases has with rfl | rfl <;> decide
    refine ⟨?_, ?_, fun i hi hmem => ?_, hc⟩
    · rcases has with rfl | rfl <;> decide
    · rcases has with rfl | rfl <;> decide
    · have hmem : i ∈ sampleDatabase.userSessions.map UserSession.id := hmem
      rw [hids, List.mem_singleton] at hmem
      exact hnew (hmem ▸ hi)
  exact ⟨hs, sample_agree.run sampleEnv_lawful (fun _ _ => rfl) sampleEnv_separates hs hrun⟩

/-- The revoke comes first: the logout is final, and the refresh is refused. -/
theorem logout_final_revokeFirst :
    (∃ s, (authMachine FakeSessionRepository.store 86400).run (.init sampleFake) revokeFirst = some s ∧
      s.requests = [(logoutRequest, .answered .loggedOut), (refreshRequest,
        .answered (.error 401 "INVALID_SESSION"))] ∧
      s.LogoutFinal FakeSessionRepository.store "token-1" 0) ∧
    ∃ t, (authMachine sampleEnv.store 86400).run (.init sampleDatabase) revokeFirst = some t ∧
      t.requests[0]? = some (logoutRequest, .answered .loggedOut) ∧ t.LogoutFinal sampleEnv.store "token-1" 0 := by
  have hrun : ((authMachine FakeSessionRepository.store 86400).run (.init sampleFake) revokeFirst).map
      AuthState.requests = some [(logoutRequest, .answered .loggedOut),
        (refreshRequest, .answered (.error 401 "INVALID_SESSION"))] := by decide
  have hc : (authMachine FakeSessionRepository.store 86400).Along
      (fun s a => FreshTokens "token-1" s a ∧ RevokesInTime 0 s a) (.init sampleFake) revokeFirst := by decide
  have hnew : (authMachine FakeSessionRepository.store 86400).Along (RegularCall 86400) (.init sampleFake)
      revokeFirst := by
    decide
  obtain ⟨s, hs, hrequests⟩ := Option.map_eq_some_iff.1 hrun
  obtain ⟨hsupplied, t, ht, hagree⟩ := sample_run (Or.inl rfl) hs hnew
  have hct : (authMachine sampleEnv.store 86400).Along
      (fun s a => FreshTokens "token-1" s a ∧ RevokesInTime 0 s a) (.init sampleDatabase) revokeFirst :=
    sample_agree.along sampleEnv_lawful (fun _ _ => rfl) sampleEnv_separates hsupplied hs
      (fun hv hc => ⟨hc.1.of_view hv, hc.2.of_view hv⟩) hc
  have hhash : sampleEnv.Separates ("token-1" :: revokeFirst.flatMap AuthAction.tokens) := by
    unfold AdapterEnv.Separates
    decide
  obtain ⟨phase, hphase, hp⟩ := AuthState.requests_view hagree.view (i := 0) (by rw [hrequests]; rfl)
  have hphase : t.requests[0]? = some (logoutRequest, .answered .loggedOut) := by
    rw [hphase, AuthPhase.withoutId_eq_answered.1 hp.symm]
  exact ⟨⟨s, hs, hrequests, (logout_final 86400).1 hs hc⟩, t, ht, hphase,
    (logout_final 86400).2 sampleEnv_lawful hhash ht hct⟩

/-- The rotation comes first: both requests are answered with 200, and the new token is resolved. -/
theorem logout_after_rotation :
    (∃ s, (authMachine FakeSessionRepository.store 86400).run (.init sampleFake) rotateFirst = some s ∧
      (authMachine FakeSessionRepository.store 86400).Along (FreshTokens "token-1") (.init sampleFake) rotateFirst ∧
      s.requests = [(logoutRequest, .answered .loggedOut), (refreshRequest, .answered (.rotated "token-2"))] ∧
      ¬ s.LogoutFinal FakeSessionRepository.store "token-1" 0) ∧
    ∃ t, (authMachine sampleEnv.store 86400).run (.init sampleDatabase) rotateFirst = some t ∧
      (authMachine sampleEnv.store 86400).Along (FreshTokens "token-1") (.init sampleDatabase) rotateFirst ∧
      t.requests[0]? = some (logoutRequest, .answered .loggedOut) ∧ ¬ t.LogoutFinal sampleEnv.store "token-1" 0 := by
  have hrun : ((authMachine FakeSessionRepository.store 86400).run (.init sampleFake) rotateFirst).map
      (fun s => ((s.requests, s.rotations), (s.store.get 1767225600000000 "token-2").toOption.isSome)) =
      some (([(logoutRequest, .answered .loggedOut), (refreshRequest, .answered (.rotated "token-2"))],
        [("token-1", "token-2")]), true) := by decide
  have hc : (authMachine FakeSessionRepository.store 86400).Along (FreshTokens "token-1") (.init sampleFake)
      rotateFirst := by decide
  have hnew : (authMachine FakeSessionRepository.store 86400).Along (RegularCall 86400) (.init sampleFake)
      rotateFirst := by
    decide
  obtain ⟨s, hs, heq⟩ := Option.map_eq_some_iff.1 hrun
  obtain ⟨heq, hget⟩ := Prod.mk.inj heq
  obtain ⟨hrequests, hrotations⟩ := Prod.mk.inj heq
  obtain ⟨hsupplied, t, ht, hagree⟩ := sample_run (Or.inr rfl) hs hnew
  have hct := sample_agree.along (D := FreshTokens "token-1") sampleEnv_lawful (fun _ _ => rfl)
    sampleEnv_separates hsupplied hs
    (fun hv hc => hc.of_view hv) hc
  obtain ⟨phase, hphase, hp⟩ := AuthState.requests_view hagree.view (i := 0) (by rw [hrequests]; rfl)
  have hphase : t.requests[0]? = some (logoutRequest, .answered .loggedOut) := by
    rw [hphase, AuthPhase.withoutId_eq_answered.1 hp.symm]
  -- the new token is resolved by both repositories
  have hline : ∀ {R : List (String × String)}, R = [("token-1", "token-2")] → Descends "token-1" R "token-2" := by
    rintro R rfl
    exact .replaced .root List.mem_cons_self
  have hfound : ∃ dto, s.store.get 1767225600000000 "token-2" = .ok dto := by
    cases hg : s.store.get 1767225600000000 "token-2" with
    | error e => rw [hg] at hget; cases hget
    | ok dto => exact ⟨dto, rfl⟩
  obtain ⟨dto, hdto⟩ := hfound
  have hknown : "token-2" ∈ ["token-1", "token-2"] := by decide
  have hsame : (s.store.exec 1767225600000000 309 (.get "token-2")).2.Same (fun _ _ => True)
      (sampleEnv.exec t.store 1767225600000000 ⟨309, [], []⟩ (.get "token-2")).2 :=
    (hagree.stores.get sampleEnv_lawful.toLawfulOn sampleEnv_separates hknown).2
  refine ⟨⟨s, hs, hc, hrequests, fun hfinal => ?_⟩, t, ht, hct, hphase, fun hfinal => ?_⟩
  · have hreq : s.requests[0]? = some (logoutRequest, .answered .loggedOut) := by rw [hrequests]; rfl
    refine hfinal _ _ hreq rfl rfl .root _ (hline hrotations) 1767225600000000 309 ⟨309, [], []⟩ dto ?_
    exact congrArg (RepositoryAnswer.of .session) hdto
  · have hrot : t.rotations = [("token-1", "token-2")] :=
      (congrArg AuthState.rotations hagree.view).symm.trans hrotations
    have hanswer : (s.store.exec 1767225600000000 309 (.get "token-2")).2 = .session dto :=
      congrArg (RepositoryAnswer.of .session) hdto
    rw [hanswer] at hsame
    generalize hpg : (sampleEnv.exec t.store 1767225600000000 ⟨309, [], []⟩ (.get "token-2")).2 = answer at hsame
    cases hsame
    exact hfinal _ _ hphase rfl rfl .root _ (hline hrot) 1767225600000000 309 ⟨309, [], []⟩ _ hpg

end CleanBackend
