import CleanBackend.Auth.SessionStore
import CleanBackend.Lib.Machine

/-!
# A revoked token stays dead

Once `revoke`, `revoke_all` or `rotate` has revoked the session of a token, the token is refused from then on, and a
token that is in the store is not taken again.  `user_sessions_token_hash_key` sees to that in the PostgreSQL
repository, whatever tokens the calls present.  `FakeSessionRepository` assigns to its dictionary: it keeps its
revoked tokens dead exactly in the runs that never bring a token it already has (`revoked_tokens_stay_dead`).
-/

namespace CleanBackend

/-! ### Stores that keep their tokens -/

/-- A session repository, and which tokens have a session, revoked or not. -/
structure KeptStore (σ : Type) extends SessionStore σ where
  InStore : σ → String → Prop

/-- The token whose session `get`, `touch` and `rotate` use. -/
def RepositoryCall.presented : RepositoryCall → Option String
  | get token | touch token _ => some token
  | rotate params => some params.oldSessionToken
  | _ => none

namespace KeptStore

variable {σ : Type} (S : KeptStore σ)

def after (s : σ) (step : RepositoryStep) : σ := (S.exec s step).1

def machine : Machine σ RepositoryStep := ⟨fun s step => some (S.after s step)⟩

/-- The call revokes the session of the token: it finds it unrevoked and leaves it revoked, or it is a `revoke` or a
successful `rotate` of it. -/
def Revokes (s : σ) (step : RepositoryStep) (token : String) : Prop :=
  (S.Unrevoked s token ∧ ¬ S.Unrevoked (S.after s step) token) ∨
  match step.call with
  | .revoke t => t = token ∧ S.InStore s token
  | .rotate p => p.oldSessionToken = token ∧ ∃ dto, (S.exec s step).2 = .created dto
  | _ => False

/-- A `get`, `touch` or `rotate` of the token raises `InvalidSessionError`. -/
def Denies (token : String) (s : σ) (step : RepositoryStep) : Prop :=
  step.call.presented = some token → ∃ code, (S.exec s step).2 = .raised (.invalidSession code)

/-- A call whose new token is already in the store fails and leaves the store unchanged. -/
def RefusesTaken (s : σ) (step : RepositoryStep) : Prop :=
  ∀ token, step.call.newToken = some token → S.InStore s token →
    (∃ e, (S.exec s step).2 = .raised e) ∧ S.after s step = s

/-- After a call that revokes the session of a token, all later calls are denied that token. -/
def StaysDead : σ → List RepositoryStep → Prop
  | _, [] => True
  | s, step :: steps =>
    (∀ token, S.Revokes s step token → S.machine.Along (S.Denies token) (S.after s step) steps) ∧
      StaysDead (S.after s step) steps

/-- The token has a session, and it is revoked. -/
def Dead (s : σ) (token : String) : Prop := S.InStore s token ∧ ¬ S.Unrevoked s token

/-- What a store does in steps that meet `C`: no session leaves it, the dead tokens are denied and stay dead, and
`revoke` and a successful `rotate` leave their token dead. -/
structure Permanent (C : σ → RepositoryStep → Prop) : Prop where
  unrevoked {s : σ} {token : String} (h : S.Unrevoked s token) : S.InStore s token
  stores {s : σ} {token : String} (step : RepositoryStep) (h : S.InStore s token) : S.InStore (S.after s step) token
  denies {s : σ} {token : String} (step : RepositoryStep) (h : S.Dead s token) : S.Denies token s step
  keeps {s : σ} {step : RepositoryStep} {token : String} (hc : C s step) (h : S.Dead s token) :
    S.Dead (S.after s step) token
  revoke {s : σ} {now : Int} {token : String} {i : Uuid} {d : Draws} (h : S.InStore s token) :
    S.Dead (S.after s ⟨now, .revoke token, i, d⟩) token
  rotate {s : σ} {now : Int} {p : RotateParams} {i : Uuid} {d : Draws} {dto : CreatedSessionDTO}
    (hc : C s ⟨now, .rotate p, i, d⟩) (h : (S.exec s ⟨now, .rotate p, i, d⟩).2 = .created dto) :
    S.Dead (S.after s ⟨now, .rotate p, i, d⟩) p.oldSessionToken

variable {S} {C : σ → RepositoryStep → Prop}

private theorem Permanent.revokes (hS : S.Permanent C) {s : σ} {step : RepositoryStep} {token : String}
    (hc : C s step)
    (h : S.Revokes s step token) : S.Dead (S.after s step) token := by
  rcases h with ⟨hu, hn⟩ | h
  · exact ⟨hS.stores step (hS.unrevoked hu), hn⟩
  · obtain ⟨now, call, internalId, draws⟩ := step
    cases call with
    | revoke t =>
      obtain ⟨rfl, hin⟩ := h
      exact hS.revoke hin
    | rotate p =>
      obtain ⟨rfl, dto, hdto⟩ := h
      exact hS.rotate hc hdto
    | create | get | touch | revokeAll => exact h.elim

private theorem Permanent.along_denies (hS : S.Permanent C) {s : σ} {steps : List RepositoryStep} {token : String}
    (hc : S.machine.Along C s steps) (h : S.Dead s token) : S.machine.Along (S.Denies token) s steps := by
  refine hc.of_invariant (P := fun s => S.Dead s token) (fun s step s' h hc hstep => ?_)
    (fun s step h _ => hS.denies step h) h
  cases hstep
  exact hS.keeps hc h

private theorem Permanent.staysDead (hS : S.Permanent C) {s : σ} {steps : List RepositoryStep}
    (hc : S.machine.Along C s steps) : S.StaysDead s steps := by
  induction steps generalizing s with
  | nil => trivial
  | cons step steps ih =>
    have hrest : S.machine.Along C (S.after s step) steps := hc.2 _ rfl
    exact ⟨fun token h => hS.along_denies hrest (hS.revokes hc.1 h), ih hrest⟩

end KeptStore

/-! ### The in-memory repository -/

namespace FakeSessionRepository

def kept : KeptStore FakeSessionRepository := ⟨store, fun r token => (r.sessions.get token).isSome⟩

/-- `create`, or a `rotate` of an active session, brings no token that the dictionary has, unless its expiries
overflow. -/
def BringsNew (r : FakeSessionRepository) (step : RepositoryStep) : Prop :=
  match step.call with
  | .create p => step.ExpiriesInRange → r.sessions.get p.sessionToken = none
  | .rotate p => step.ExpiriesInRange → ∀ stored, r.active step.now p.oldSessionToken = .ok stored →
      r.sessions.get p.newSessionToken = none
  | _ => True

variable {r : FakeSessionRepository} {token : String}

/-- `create` stores a session, or overflows and leaves the dictionary. -/
private theorem create_cases (r : FakeSessionRepository) (now : Int) (internalId : Uuid) (draws : Draws)
    (p : CreateParams) : ((⟨now, .create p, internalId, draws⟩ : RepositoryStep).ExpiriesInRange ∧ ∃ stored dto,
      stored.revokedAt = none ∧ r.create now internalId p =
        ({ r with sessions := r.sessions.set p.sessionToken stored }, .ok dto)) ∨
    ¬ (⟨now, .create p, internalId, draws⟩ : RepositoryStep).ExpiriesInRange ∧ ∃ e,
      r.create now internalId p = (r, .error e) := by
  unfold create
  by_cases habs : InDatetimeRange (now + timedelta p.absoluteTtlSeconds)
  · by_cases hidle : InDatetimeRange (now + timedelta p.idleTtlSeconds)
    · rw [datetimeAfter_inRange habs, datetimeAfter_inRange hidle]
      exact Or.inl ⟨by simp [RepositoryStep.ExpiriesInRange, RepositoryCall.ttls, habs, hidle], _, _, rfl, rfl⟩
    · rw [datetimeAfter_inRange habs, datetimeAfter_overflow hidle]
      exact Or.inr ⟨by simp [RepositoryStep.ExpiriesInRange, RepositoryCall.ttls, hidle], _, rfl⟩
  · rw [datetimeAfter_overflow habs]
    exact Or.inr ⟨by simp [RepositoryStep.ExpiriesInRange, RepositoryCall.ttls, habs], _, rfl⟩

private theorem dead_iff :
    kept.Dead r token ↔ ∃ stored, r.sessions.get token = some stored ∧ stored.revokedAt.isSome := by
  show (r.sessions.get token).isSome ∧ ¬ r.Unrevoked token ↔ _
  unfold Unrevoked
  cases r.sessions.get token with
  | none => simp
  | some stored => simp [Option.isSome_iff_ne_none]

private theorem dead_set {k : String} {stored : StoredSession} :
    kept.Dead { r with sessions := r.sessions.set k stored } token ↔
      if k = token then stored.revokedAt.isSome = true else kept.Dead r token := by
  rw [dead_iff, dead_iff]
  simp only [PyDict.get_set]
  split <;> simp

private theorem active_dead (h : kept.Dead r token) (now : Int) :
    r.active now token = .error (.invalidSession "SESSION_REVOKED") := by
  obtain ⟨stored, hg, hr⟩ := dead_iff.1 h
  unfold active
  rw [hg]
  simp only [hr, if_true]

/-- A call that leaves the entry of a token, or sets it to a revoked one. -/
private theorem ne_of_active {now : Int} {k : String} {stored : StoredSession} (h : kept.Dead r token)
    (hact : r.active now k = .ok stored) : k ≠ token := by
  rintro rfl
  rw [active_dead h] at hact
  cases hact

private theorem get_revokeAll (r : FakeSessionRepository) (now : Int) (u t token : String) :
    (r.revokeAll now u t).1.sessions.get token = (r.sessions.get token).map fun stored =>
      if revocable u t now stored then { stored with revokedAt := some now } else stored := by
  simp only [revokeAll, PyDict.get]
  rw [findBy_map]
  · rw [Option.map_map, Option.map_map]
    congr 1
    funext e
    simp only [Function.comp_apply]
    split <;> rfl
  · intro e
    split <;> rfl

private theorem isSome_set {k : String} {stored : StoredSession} (h : (r.sessions.get token).isSome) :
    ((r.sessions.set k stored).get token).isSome := by
  rw [PyDict.get_set]
  split
  · rfl
  · exact h

/-- No call removes a session. -/
private theorem stores (step : RepositoryStep) (h : (r.sessions.get token).isSome) :
    ((r.execStep step).1.sessions.get token).isSome := by
  obtain ⟨now, call, internalId, draws⟩ := step
  cases call with
  | create p =>
    show ((r.create now internalId p).1.sessions.get token).isSome
    rcases r.create_cases now internalId draws p with ⟨-, stored, dto, -, hc⟩ | ⟨-, e, hc⟩
    · rw [hc]
      exact isSome_set h
    · rw [hc]
      exact h
  | get t => exact h
  | touch t ttl =>
    show ((r.touch now t ttl).1.sessions.get token).isSome
    unfold touch
    cases r.active now t with
    | error e => exact h
    | ok stored =>
      cases datetimeAfter now ttl with
      | error e => exact h
      | ok idle => exact isSome_set h
  | rotate p =>
    show ((r.rotate now internalId p).1.sessions.get token).isSome
    unfold rotate
    cases r.active now p.oldSessionToken with
    | error e => exact h
    | ok old =>
      cases datetimeAfter now p.idleTtlSeconds with
      | error e => exact h
      | ok idle => exact isSome_set (r := { r with sessions := _ }) (isSome_set h)
  | revoke t =>
    show ((r.revoke now t).sessions.get token).isSome
    unfold revoke
    cases r.sessions.get t with
    | none => exact h
    | some stored =>
      simp only
      split
      · exact isSome_set h
      · exact h
  | revokeAll u t =>
    show ((r.revokeAll now u t).1.sessions.get token).isSome
    rw [get_revokeAll, Option.isSome_map]
    exact h

section Dead

variable {now : Int} {internalId : Uuid}

private theorem ne_of_get_none {k : String} (h : kept.Dead r token) (hk : r.sessions.get k = none) : k ≠ token := by
  rintro rfl
  obtain ⟨stored, hg, -⟩ := dead_iff.1 h
  rw [hk] at hg
  cases hg

private theorem dead_create {p : CreateParams} {draws : Draws} (hc : BringsNew r ⟨now, .create p, internalId, draws⟩)
    (h : kept.Dead r token) : kept.Dead (r.create now internalId p).1 token := by
  rcases r.create_cases now internalId draws p with ⟨hrange, stored, dto, -, he⟩ | ⟨-, e, he⟩
  · rw [he, dead_set, if_neg (ne_of_get_none h (hc hrange))]
    exact h
  · rw [he]
    exact h

private theorem dead_touch {t : String} {ttl : Int} (h : kept.Dead r token) :
    kept.Dead (r.touch now t ttl).1 token := by
  unfold touch
  cases hact : r.active now t with
  | error e => exact h
  | ok stored =>
    cases datetimeAfter now ttl with
    | error e => exact h
    | ok idle =>
      simp only
      rw [dead_set, if_neg (ne_of_active h hact)]
      exact h

/-- A rotation adds its old token to the dead ones. -/
private theorem dead_rotate {p : RotateParams} {old : StoredSession} (hact : r.active now p.oldSessionToken = .ok old)
    (hrange : InDatetimeRange (now + timedelta p.idleTtlSeconds)) (hnew : r.sessions.get p.newSessionToken = none) :
    kept.Dead (r.rotate now internalId p).1 token ↔ kept.Dead r token ∨ token = p.oldSessionToken := by
  have hold : ¬ kept.Dead r p.oldSessionToken := fun h => ne_of_active h hact rfl
  have hne : p.newSessionToken ≠ p.oldSessionToken := by
    intro he
    rw [he, active_ok hact] at hnew
    cases hnew
  unfold rotate
  rw [hact, datetimeAfter_inRange hrange]
  simp only
  rw [dead_set (r := { r with sessions := r.sessions.set p.oldSessionToken _ }), dead_set]
  by_cases hnt : p.newSessionToken = token
  · subst hnt
    have hdead : ¬ kept.Dead r p.newSessionToken := fun h => ne_of_get_none h hnew rfl
    simp [hdead, hne]
  · rw [if_neg hnt]
    by_cases hot : p.oldSessionToken = token
    · subst hot
      simp
    · simp [hot, Ne.symm hot]

/-- A `rotate` raises and leaves the dictionary, or rotates an active session. -/
private theorem rotate_cases (r : FakeSessionRepository) (now : Int) (internalId : Uuid) (p : RotateParams) :
    (∃ e, r.rotate now internalId p = (r, .error e)) ∨
    ∃ old dto, r.active now p.oldSessionToken = .ok old ∧ InDatetimeRange (now + timedelta p.idleTtlSeconds) ∧
      (r.rotate now internalId p).2 = .ok dto := by
  unfold rotate
  cases hact : r.active now p.oldSessionToken with
  | error e => exact Or.inl ⟨e, rfl⟩
  | ok old =>
    by_cases hidle : InDatetimeRange (now + timedelta p.idleTtlSeconds)
    · rw [datetimeAfter_inRange hidle]
      exact Or.inr ⟨old, _, rfl, hidle, rfl⟩
    · rw [datetimeAfter_overflow hidle]
      exact Or.inl ⟨_, rfl⟩

/-- The one interval of a `rotate`. -/
private theorem rotate_expiries {p : RotateParams} {draws : Draws} :
    (⟨now, .rotate p, internalId, draws⟩ : RepositoryStep).ExpiriesInRange ↔
      InDatetimeRange (now + timedelta p.idleTtlSeconds) := by
  simp [RepositoryStep.ExpiriesInRange, RepositoryCall.ttls]

/-- `revoke` adds its token, if it is in the dictionary, to the dead ones. -/
private theorem dead_revoke {t : String} :
    kept.Dead (r.revoke now t) token ↔ kept.Dead r token ∨ token = t ∧ (r.sessions.get t).isSome := by
  unfold revoke
  cases hg : r.sessions.get t with
  | none => simp
  | some stored =>
    simp only
    by_cases hr : stored.revokedAt.isNone
    · rw [if_pos hr, dead_set]
      by_cases ht : t = token
      · subst ht
        simp
      · simp [ht, Ne.symm ht]
    · rw [if_neg hr]
      have hdead : kept.Dead r t := dead_iff.2 ⟨stored, hg, by simpa [Option.isSome_iff_ne_none] using hr⟩
      constructor
      · exact Or.inl
      · rintro (h | ⟨rfl, -⟩)
        · exact h
        · exact hdead

private theorem dead_revokeAll {u t : String} (h : kept.Dead r token) : kept.Dead (r.revokeAll now u t).1 token := by
  obtain ⟨stored, hg, hr⟩ := dead_iff.1 h
  rw [dead_iff, get_revokeAll, hg]
  refine ⟨_, rfl, ?_⟩
  dsimp only
  split
  · rfl
  · exact hr

/-- What is dead stays dead in every call that brings no token of the dictionary. -/
private theorem dead_execStep {step : RepositoryStep} (hc : BringsNew r step) (h : kept.Dead r token) :
    kept.Dead (r.execStep step).1 token := by
  obtain ⟨now, call, internalId, draws⟩ := step
  cases call with
  | create p => exact dead_create hc h
  | get t => exact h
  | touch t ttl => exact dead_touch h
  | rotate p =>
    show kept.Dead (r.rotate now internalId p).1 token
    rcases r.rotate_cases now internalId p with ⟨e, he⟩ | ⟨old, dto, hact, hrange, -⟩
    · rw [he]
      exact h
    · exact (dead_rotate hact hrange (hc (rotate_expiries.2 hrange) old hact)).2 (Or.inl h)
  | revoke t => exact dead_revoke.2 (Or.inl h)
  | revokeAll u t => exact dead_revokeAll h

end Dead

/-- A dead token is refused as revoked. -/
private theorem denies_dead (step : RepositoryStep) (h : kept.Dead r token) : kept.Denies token r step := by
  intro hp
  obtain ⟨now, call, internalId, draws⟩ := step
  refine ⟨"SESSION_REVOKED", ?_⟩
  cases call with
  | get t =>
    cases hp
    show RepositoryAnswer.of .session (r.get now token) = _
    unfold get
    rw [active_dead h]
    rfl
  | touch t ttl =>
    cases hp
    show RepositoryAnswer.of .touched (r.touch now token ttl).2 = _
    unfold touch
    rw [active_dead h]
    rfl
  | rotate p =>
    obtain rfl := Option.some.inj hp
    show RepositoryAnswer.of .created (r.rotate now internalId p).2 = _
    unfold rotate
    rw [active_dead h]
    rfl
  | create | revoke | revokeAll => cases hp

private theorem kept_permanent : kept.Permanent BringsNew where
  unrevoked {r token} h := by
    obtain ⟨stored, hg, -⟩ := h
    show (r.sessions.get token).isSome
    rw [hg]
    rfl
  stores step h := stores step h
  denies step h := denies_dead step h
  keeps hc h := dead_execStep hc h
  revoke h := dead_revoke.2 (Or.inr ⟨rfl, h⟩)
  rotate {r now p internalId _ dto} hc h := by
    have h : RepositoryAnswer.of .created (r.rotate now internalId p).2 = .created dto := h
    rcases r.rotate_cases now internalId p with ⟨e, he⟩ | ⟨old, dto, hact, hrange, -⟩
    · rw [he] at h
      cases h
    · exact (dead_rotate hact hrange (hc (rotate_expiries.2 hrange) old hact)).2 (Or.inr rfl)

/-- Bringing a token that the dictionary has succeeds, and nothing else breaks the rule. -/
private theorem refusesTaken_iff (r : FakeSessionRepository) (step : RepositoryStep) :
    kept.RefusesTaken r step ↔ BringsNew r step := by
  obtain ⟨now, call, internalId, draws⟩ := step
  constructor
  · intro h
    cases call with
    | create p =>
      intro hrange
      -- a call that succeeds on a taken token breaks the rule
      by_contra hin
      obtain ⟨⟨e, he⟩, -⟩ := h p.sessionToken rfl (Option.isSome_iff_ne_none.2 hin)
      have he : RepositoryAnswer.of .created (r.create now internalId p).2 = .raised e := he
      rcases r.create_cases now internalId draws p with ⟨-, stored, dto, -, hc⟩ | ⟨hn, -⟩
      · rw [hc] at he
        cases he
      · exact hn hrange
    | rotate p =>
      intro hrange stored hact
      by_contra hin
      obtain ⟨⟨e, he⟩, -⟩ := h p.newSessionToken rfl (Option.isSome_iff_ne_none.2 hin)
      have he : RepositoryAnswer.of .created (r.rotate now internalId p).2 = .raised e := he
      unfold rotate at he
      rw [hact, datetimeAfter_inRange (rotate_expiries.1 hrange)] at he
      cases he
    | get | touch | revoke | revokeAll => trivial
  · intro h token hnew hin
    cases call with
    | create p =>
      cases hnew
      have hin : (r.sessions.get p.sessionToken).isSome := hin
      show (∃ e, RepositoryAnswer.of .created (r.create now internalId p).2 = .raised e) ∧
        (r.create now internalId p).1 = r
      rcases r.create_cases now internalId draws p with ⟨hrange, -⟩ | ⟨-, e, hc⟩
      · rw [h hrange] at hin
        cases hin
      · rw [hc]
        exact ⟨⟨e, rfl⟩, rfl⟩
    | rotate p =>
      cases hnew
      have hin : (r.sessions.get p.newSessionToken).isSome := hin
      show (∃ e, RepositoryAnswer.of .created (r.rotate now internalId p).2 = .raised e) ∧
        (r.rotate now internalId p).1 = r
      rcases r.rotate_cases now internalId p with ⟨e, he⟩ | ⟨old, dto, hact, hrange, -⟩
      · rw [he]
        exact ⟨⟨e, rfl⟩, rfl⟩
      · rw [h (rotate_expiries.2 hrange) old hact] at hin
        cases hin
    | get | touch | revoke | revokeAll => cases hnew

end FakeSessionRepository

/-! ### The PostgreSQL repository -/

/-- A call keeps a session, and a revoked one revoked. -/
private theorem SessionCall.exec_revoked (call : SessionCall) {db : Database} {now : Int} {h : Bytea}
    {row : UserSession} (hs : db.sessionOf h = some row) :
    ∃ row', (call.exec db now).1.sessionOf h = some row' ∧ (row.revokedAt.isSome → row'.revokedAt.isSome) := by
  have hins : ∀ {db' : Database} {new : UserSession}, db.insertSession new = .ok db' →
      db'.sessionOf h = some row := fun hins => Database.sessionOf_insert_of_some hins hs
  have hset : ∀ (u : SessionUpdate) (cond : UserSession → Bool),
      (∀ s : UserSession, s.revokedAt.isSome → (u.set s).revokedAt.isSome) →
      row.revokedAt.isSome → (u.on cond row).revokedAt.isSome := by
    intro u cond hu hr
    unfold SessionUpdate.on
    split
    · exact hu row hr
    · exact hr
  -- an insert leaves the row, and no update takes `revoked_at` back
  cases call with
  | create id a =>
    simp only [exec]
    rcases db.settle_cases .created (db.createUserSession now id a) with ⟨e, -, he⟩ | ⟨db', e, hc, he⟩ |
      ⟨db', d, hc, he⟩
    · exact ⟨row, by rw [he, hs], fun hr => hr⟩
    · exact ⟨row, by rw [he, Database.createUserSession_error hc, hs], fun hr => hr⟩
    · exact ⟨row, by rw [he, hins (Database.createUserSession_ok hc).1], fun hr => hr⟩
  | get k =>
    simp only [exec]
    rcases db.settle_cases .session (.ok (db, db.getUserSession now k)) with ⟨e, hc, -⟩ | ⟨db', e, hc, he⟩ |
      ⟨db', d, hc, he⟩
    · cases hc
    · obtain ⟨rfl, -⟩ := Prod.mk.inj (Except.ok.inj hc)
      exact ⟨row, by rw [he, hs], fun hr => hr⟩
    · obtain ⟨rfl, -⟩ := Prod.mk.inj (Except.ok.inj hc)
      exact ⟨row, by rw [he, hs], fun hr => hr⟩
  | touch k idleTtl =>
    simp only [exec]
    rcases db.settle_cases .touched (.ok (db.touchUserSession now k idleTtl)) with ⟨e, hc, -⟩ | ⟨db', e, hc, he⟩ |
      ⟨db', d, hc, he⟩
    · cases hc
    · exact ⟨row, by rw [he, Database.touchUserSession_error (Except.ok.inj hc), hs], fun hr => hr⟩
    · obtain ⟨s, -, -, rfl, -⟩ := Database.touchUserSession_ok (Except.ok.inj hc)
      exact ⟨_, by rw [he, Database.sessionOf_update, hs]; rfl, hset _ _ fun _ h => h⟩
  | rotate id a =>
    simp only [exec]
    rcases db.settle_cases .created (db.rotateUserSession now id a) with ⟨e, -, he⟩ | ⟨db', e, hc, he⟩ |
      ⟨db', d, hc, he⟩
    · exact ⟨row, by rw [he, hs], fun hr => hr⟩
    · exact ⟨row, by rw [he, Database.rotateUserSession_error hc, hs], fun hr => hr⟩
    · obtain ⟨old, db₁, -, -, hi, rfl, -⟩ := Database.rotateUserSession_ok hc
      exact ⟨_, by rw [he, Database.sessionOf_update, hins hi]; rfl, hset _ _ fun _ _ => rfl⟩
  | revoke k =>
    have hdb : (exec db now (revoke k)).1.sessionOf h =
        some ((SessionUpdate.revoke now).on (fun s => s.tokenHash == k && s.revokedAt.isNone) row) := by
      rw [exec, Database.revokeUserSession, Database.sessionOf_update, hs]
      rfl
    exact ⟨_, hdb, hset _ _ fun _ _ => rfl⟩
  | revokeAll u t =>
    have hdb : (exec db now (revokeAll u t)).1.sessionOf h =
        some ((SessionUpdate.revoke now).on (UserSession.revocable u t now) row) := by
      rw [exec, Database.revokeAllUserSessions, Database.sessionOf_update, hs]
      rfl
    exact ⟨_, hdb, hset _ _ fun _ _ => rfl⟩

namespace AdapterEnv

variable (env : AdapterEnv)

def kept : KeptStore Database := ⟨env.store, fun db token => (db.sessionOf (env.hashSessionToken token)).isSome⟩

variable {env} {db : Database} {token : String}

private theorem dead_iff : env.kept.Dead db token ↔
    ∃ row, db.sessionOf (env.hashSessionToken token) = some row ∧ row.revokedAt.isSome := by
  show (db.sessionOf (env.hashSessionToken token)).isSome ∧ ¬ env.Unrevoked db token ↔ _
  unfold Unrevoked
  cases db.sessionOf (env.hashSessionToken token) with
  | none => simp
  | some row => simp [Option.isSome_iff_ne_none]

private theorem check_revoked {row : UserSession} (hr : row.revokedAt.isSome) (now : Int) :
    row.check now = .error .sessionRevoked := by
  unfold UserSession.check
  rw [if_pos hr]

private theorem query_revoked {α : Type} {now : Int} {call : SessionCall}
    {read : PyDict String Json → Except RepositoryError α} {answer : α → RepositoryAnswer}
    (he : call.exec db now = (db, .failed .sessionRevoked)) :
    ∃ code, (env.query db now call read answer).2 = .raised (.invalidSession code) := by
  rw [Agree.query_eq he, read_failed]
  exact ⟨"SESSION_REVOKED", rfl⟩

/-- A method keeps a session, and a revoked one revoked. -/
private theorem exec_session (env : AdapterEnv) (step : RepositoryStep) {row : UserSession}
    (hs : db.sessionOf (env.hashSessionToken token) = some row) :
    ∃ row', (env.execStep db step).1.sessionOf (env.hashSessionToken token) = some row' ∧
      (row.revokedAt.isSome → row'.revokedAt.isSome) := by
  unfold execStep
  rw [exec_db]
  cases env.sessionCall step.now step.draws step.call with
  | error e => exact ⟨row, hs, fun hr => hr⟩
  | ok c => exact c.exec_revoked hs

/-- The row of a dead token fails the check of every function. -/
private theorem denies_dead (step : RepositoryStep) (h : env.kept.Dead db token) : env.kept.Denies token db step := by
  intro hp
  obtain ⟨now, call, internalId, draws⟩ := step
  obtain ⟨row, hs, hr⟩ := dead_iff.1 h
  cases call with
  | get t =>
    cases hp
    obtain ⟨u, -, hget⟩ := Database.getUserSession_some now hs
    rw [check_revoked hr] at hget
    refine query_revoked ?_
    rw [SessionCall.exec, hget]
    rfl
  | touch t ttl =>
    cases hp
    refine query_revoked ?_
    rw [SessionCall.exec, Database.touchUserSession, hs]
    simp only [check_revoked hr]
    rfl
  | rotate p =>
    obtain rfl := Option.some.inj hp
    refine query_revoked ?_
    have hs : db.sessionOf (env.rotateArgs now draws p).oldTokenHash = some row := hs
    rw [SessionCall.exec, Database.rotateUserSession, hs]
    simp only [check_revoked hr]
    rfl
  | create | revoke | revokeAll => cases hp

private theorem dead_revoke {now : Int} (draws : Draws) (h : (db.sessionOf (env.hashSessionToken token)).isSome) :
    env.kept.Dead (env.exec db now draws (.revoke token)).1 token := by
  obtain ⟨row, hs⟩ := Option.isSome_iff_exists.1 h
  rw [dead_iff]
  show ∃ row', (db.revokeUserSession now (env.hashSessionToken token)).sessionOf _ = some row' ∧ _
  rw [Database.revokeUserSession, Database.sessionOf_update, hs]
  refine ⟨_, rfl, ?_⟩
  have hh := (Database.sessionOf_mem hs).2
  cases hr : row.revokedAt <;> simp [SessionUpdate.on, hh, hr, SessionUpdate.revoke]

private theorem dead_rotate {now : Int} {draws : Draws} {p : RotateParams} {dto : CreatedSessionDTO}
    (h : (env.exec db now draws (.rotate p)).2 = .created dto) :
    env.kept.Dead (env.exec db now draws (.rotate p)).1 p.oldSessionToken := by
  have hexec : (SessionCall.rotate draws.rowId (env.rotateArgs now draws p)).exec db now =
      db.settle .created (db.rotateUserSession now draws.rowId (env.rotateArgs now draws p)) := rfl
  rcases query_settled _ hexec env.createdDTO .created fun db' e he => Database.rotateUserSession_error he
    with ⟨-, e, he⟩ | ⟨db', data, hr, he⟩
  · cases h.symm.trans he
  · obtain ⟨old, db₁, hs, -, hins, rfl, -⟩ := Database.rotateUserSession_ok hr
    have hs : db.sessionOf (env.hashSessionToken p.oldSessionToken) = some old := hs
    have hs₁ : db₁.sessionOf (env.hashSessionToken p.oldSessionToken) = some old :=
      Database.sessionOf_insert_of_some hins hs
    have hdb : (env.exec db now draws (.rotate p)).1 = _ := congrArg Prod.fst he
    rw [dead_iff]
    show ∃ row', (env.exec db now draws (.rotate p)).1.sessionOf _ = some row' ∧ _
    rw [hdb, Database.sessionOf_update, hs₁]
    exact ⟨_, rfl, by simp [SessionUpdate.on, SessionUpdate.revoke]⟩

private theorem kept_permanent : env.kept.Permanent fun _ _ => True where
  unrevoked {db token} h := by
    obtain ⟨row, hs, -⟩ := h
    show (db.sessionOf _).isSome
    rw [hs]
    rfl
  stores {db token} step h := by
    obtain ⟨row, hs⟩ := Option.isSome_iff_exists.1 h
    obtain ⟨row', hs', -⟩ := exec_session env step hs
    show ((env.execStep db step).1.sessionOf _).isSome
    rw [hs']
    rfl
  denies step h := denies_dead step h
  keeps {db step token} _ h := by
    obtain ⟨row, hs, hr⟩ := dead_iff.1 h
    obtain ⟨row', hs', hr'⟩ := exec_session env step hs
    exact dead_iff.2 ⟨row', hs', hr' hr⟩
  revoke {_ _ _ _ draws} h := dead_revoke draws h
  rotate _ h := dead_rotate h

private theorem refusesTaken (db : Database) (step : RepositoryStep) : env.kept.RefusesTaken db step := by
  obtain ⟨now, call, internalId, draws⟩ := step
  intro token hnew hin
  show (∃ e, (env.exec db now draws call).2 = .raised e) ∧ (env.exec db now draws call).1 = db
  have hin : (db.sessionOf (env.hashSessionToken token)).isSome := hin
  -- the unique index refuses the row
  have hunique : ∀ {db' : Database} {row : UserSession}, row.tokenHash = env.hashSessionToken token →
      db.insertSession row ≠ .ok db' := by
    intro db' row hrow hins
    have hnone := Database.sessionOf_of_insert hins
    rw [hrow] at hnone
    rw [hnone] at hin
    cases hin
  cases call with
  | create p =>
    cases hnew
    unfold exec
    cases hc : env.sessionCall now draws (.create p) with
    | error e => exact ⟨⟨e, rfl⟩, rfl⟩
    | ok c =>
      obtain ⟨u, t, -, -, rfl⟩ := sessionCall_create hc
      rcases query_settled (.create draws.rowId (env.createArgs now draws p u t))
        (r := db.createUserSession now draws.rowId _) rfl env.createdDTO .created
        fun db' e he => Database.createUserSession_error he with
        ⟨hdb, he⟩ | ⟨db', data, hr, -⟩
      · exact ⟨he, hdb⟩
      · exact absurd (Database.createUserSession_ok hr).1 (hunique rfl)
  | rotate p =>
    cases hnew
    rcases query_settled (.rotate draws.rowId (env.rotateArgs now draws p))
      (r := db.rotateUserSession now draws.rowId _)
      rfl env.createdDTO .created fun db' e he => Database.rotateUserSession_error he with
      ⟨hdb, he⟩ | ⟨db', data, hr, -⟩
    · exact ⟨he, hdb⟩
    · obtain ⟨old, db₁, -, -, hins, -⟩ := Database.rotateUserSession_ok hr
      exact absurd hins (hunique rfl)
  | get | touch | revoke | revokeAll => cases hnew

end AdapterEnv

/-- Over PostgreSQL a revoked token stays dead and a token in the store is not taken, in every run; over the in-memory
repository exactly in the runs that never bring a token it has (a call whose expiries overflow brings none). -/
theorem revoked_tokens_stay_dead (env : AdapterEnv) (db : Database) (fake : FakeSessionRepository)
    (steps : List RepositoryStep) :
    (env.kept.StaysDead db steps ∧ env.kept.machine.Along env.kept.RefusesTaken db steps) ∧
    (FakeSessionRepository.kept.StaysDead fake steps ∧
        FakeSessionRepository.kept.machine.Along FakeSessionRepository.kept.RefusesTaken fake steps ↔
      FakeSessionRepository.kept.machine.Along FakeSessionRepository.BringsNew fake steps) := by
  refine ⟨⟨?_, ?_⟩, fun h => ?_, fun h => ⟨?_, ?_⟩⟩
  · exact AdapterEnv.kept_permanent.staysDead (.of_forall (fun _ _ _ => trivial) _)
  · exact .of_forall (fun step _ db => AdapterEnv.refusesTaken db step) _
  · exact h.2.mono fun r step => (FakeSessionRepository.refusesTaken_iff r step).1
  · exact FakeSessionRepository.kept_permanent.staysDead h
  · exact h.mono fun r step => (FakeSessionRepository.refusesTaken_iff r step).2

/-- A session is created, revoked, and created again with the same token, which is then resolved. -/
def reusedToken : List RepositoryStep :=
  [⟨0, .create ⟨"token-1", "alice", "acme", "access-1", "refresh-1", none, 2592000, 86400, none, none⟩, 101,
      ⟨1, [], []⟩⟩,
    ⟨1, .revoke "token-1", 102, ⟨2, [], []⟩⟩,
    ⟨2, .create ⟨"token-1", "alice", "acme", "access-2", "refresh-2", none, 2592000, 86400, none, none⟩, 103,
      ⟨3, [], []⟩⟩,
    ⟨3, .get "token-1", 104, ⟨4, [], []⟩⟩]

theorem fake_token_revived :
    ¬ (FakeSessionRepository.kept.StaysDead ⟨[], []⟩ reusedToken ∧
      FakeSessionRepository.kept.machine.Along FakeSessionRepository.kept.RefusesTaken ⟨[], []⟩ reusedToken) := by
  rintro ⟨h, -⟩
  have hdenied := h.2.1 "token-1" (Or.inr ⟨rfl, rfl⟩)
  obtain ⟨code, hraised⟩ := (hdenied.2 _ rfl).1 rfl
  have hget : (answers FakeSessionRepository.execStep ⟨[], []⟩ reusedToken)[3]? =
      some (.raised (.invalidSession code)) := congrArg some hraised
  have hresolved : (answers FakeSessionRepository.execStep ⟨[], []⟩ reusedToken)[3]? = some (.session
      ⟨uuidText 103, "alice", "acme", none, "access-2", "refresh-2", none, 2592000000002, 86400000002⟩) := by
    decide
  cases hresolved.symm.trans hget

end CleanBackend
