import CleanBackend.Database.SessionStatements

/-!
# Expiry under concurrent touches

`touch_user_session` checks the session in one statement and slides its expiry in another, with the `now()` of its
start.  A touch that has passed its check may commit after a `get` has answered SESSION_EXPIRED, and the session is
back; and of two touches the one that started first may commit last, and `idle_expires_at` goes back.  In runs where
no touch commits like that, expiry is permanent and the committed `idle_expires_at` never decreases
(`expiry_permanent`).
-/

namespace CleanBackend

/-- The state with the rows of a database committed and no transaction yet. -/
def SessionState.ofDatabase (db : Database) (clock : Int) : SessionState :=
  ⟨db.toIdentityTables, clock, Store.ofRows db.userSessions, fun _ => none⟩

/-- `get_user_session` of the token `h`, or a touch of it with an idle TTL in `T`. -/
def SessionCall.GetOrTouch (h : Bytea) (T : Int → Prop) : SessionCall → Prop
  | get k => k = h
  | touch k idleTtl => k = h ∧ T idleTtl
  | _ => False

def SessionAction.GetOrTouch (h : Bytea) (T : Int → Prop) : SessionAction → Prop
  | start _ call => call.GetOrTouch h T
  | _ => True

/-- What a transaction has answered. -/
def SessionPhase.replied : SessionPhase → Option SessionReply
  | returned reply | committed reply => some reply
  | _ => none

/-- A `get` of `h` with `now()` at `t` has answered SESSION_EXPIRED. -/
def ExpiredGet (h : Bytea) (s : SessionState) (t : Int) : Prop :=
  ∃ tid y, s.txns tid = some y ∧ y.call = .get h ∧ y.now = t ∧ y.phase.replied = some (.failed .sessionExpired)

/-- No `get` whose `now()` is not before that of an expired one succeeds. -/
def ExpiryPermanent (h : Bytea) (s : SessionState) : Prop :=
  ∀ t, ExpiredGet h s t → ∀ now, t ≤ now → ∀ data, getUserSession s.ids.users s.sessions.rows now h ≠ .ok data

/-- The step does not decrease the committed `idle_expires_at` of `h`. -/
def IdleGrows (h : Bytea) (s : SessionState) (a : SessionAction) : Prop :=
  ∀ s', sessionMachine.step s a = some s' → ∀ r ∈ s.sessions.rows, r.tokenHash = h →
    ∃ r' ∈ s'.sessions.rows, r'.tokenHash = h ∧ r.idleExpiresAt ≤ r'.idleExpiresAt

/-- The step is no commit of a touch whose new idle window reaches past the `now()` of an expired `get` (unless the
session has reached its absolute expiry there). -/
def NoLateSlide (h : Bytea) (s : SessionState) (a : SessionAction) : Prop :=
  ∀ tid x idleTtl idle, a = .exec tid → s.txns tid = some x → x.call = .touch h idleTtl →
    x.phase = .returned (.touched idle) → ∀ t, ExpiredGet h s t →
      x.now + idleTtl ≤ t ∨ ∀ r ∈ s.sessions.rows, r.tokenHash = h → r.absoluteExpiresAt ≤ t

/-- The step is no commit of a touch that started before a touch that has committed (unless its idle window reaches
the absolute expiry). -/
def TouchesInOrder (h : Bytea) (s : SessionState) (a : SessionAction) : Prop :=
  ∀ tid x idleTtl idle, a = .exec tid → s.txns tid = some x → x.call = .touch h idleTtl →
    x.phase = .returned (.touched idle) → ∀ tid' y idle', s.txns tid' = some y →
      y.phase = .committed (.touched idle') →
        y.now ≤ x.now ∨ ∀ r ∈ s.sessions.rows, r.tokenHash = h → r.absoluteExpiresAt ≤ x.now + idleTtl

/-! ### Gets and touches -/

/-- The phases of `get` and `touch`. -/
def SessionPhase.OfGetOrTouch : SessionPhase → Prop
  | start | locking _ | returned _ | committed _ | rolledBack _ => True
  | _ => False

/-- The statements of `get` and `touch`. -/
inductive TouchStatement (h : Bytea) (T : Int → Prop) (ids : IdentityTables) (s : Store Tid UserSession) (tid : Tid)
    (x : SessionTxn) : SessionEffect → Prop where
  | gets (hp : x.phase = .start) (hc : x.call = .get h) :
    TouchStatement h T ids s tid x (.goto (.returned (.ofGet (getUserSession ids.users s.rows x.now h))))
  | touchFails {idleTtl e} (hp : x.phase = .start) (hc : x.call = .touch h idleTtl) :
    TouchStatement h T ids s tid x (.goto (.returned (.failed e)))
  | touchFinds {idleTtl id} (hp : x.phase = .start) (hc : x.call = .touch h idleTtl) :
    TouchStatement h T ids s tid x (.goto (.locking id))
  | waits {id owner} (hp : x.phase = .locking id) : TouchStatement h T ids s tid x (.wait owner)
  | touches {id idleTtl row} (hp : x.phase = .locking id) (hc : x.call = .touch h idleTtl) (hT : T idleTtl)
    (hl : s.Latest tid id row) :
    TouchStatement h T ids s tid x (.write id (.slide x.now idleTtl)
      (.returned (.touched ((SessionUpdate.slide x.now idleTtl).set row).idleExpiresAt)))
  | commits {reply} (hp : x.phase = .returned reply) : TouchStatement h T ids s tid x (.commit reply)
  | aborts (hp : x.phase.finished = false) : TouchStatement h T ids s tid x (.rollback none)

private theorem Statement.getOrTouch {h : Bytea} {T : Int → Prop} {ids : IdentityTables} {s : Store Tid UserSession}
    {tid : Tid} {x : SessionTxn} {e : SessionEffect} (hs : Statement ids s tid x e) (hcall : x.call.GetOrTouch h T)
    (hphase : x.phase.OfGetOrTouch) : TouchStatement h T ids s tid x e := by
  cases hs with
  | gets hp hc =>
    rw [hc] at hcall
    cases hcall
    exact .gets hp hc
  | touchFails hp hc =>
    rw [hc] at hcall
    obtain ⟨rfl, -⟩ := hcall
    exact .touchFails hp hc
  | touchFinds hp hc =>
    rw [hc] at hcall
    obtain ⟨rfl, -⟩ := hcall
    exact .touchFinds hp hc
  | waits hp => exact .waits hp
  | touches hp hc hl =>
    rw [hc] at hcall
    obtain ⟨rfl, hT⟩ := hcall
    exact .touches hp hc hT hl
  | commits hp => exact .commits hp
  | aborts hp => exact .aborts hp
  | createFails _ hc | creates _ hc | rotateMisses _ hc | rotateFinds _ hc | revokeMisses _ hc | revokeFinds _ hc
  | scans _ hc | rotateFails _ hc | rotateLocks _ hc | revokeSkips _ hc | revokes _ hc =>
    rw [hc] at hcall
    exact hcall.elim
  | insertFails hp | insertsFirst hp | insertsNext hp | revokesOld hp | visitWaits hp | visits hp | visitSkips hp
  | scanEnds hp =>
    rw [hp] at hphase
    exact hphase.elim

/-- Only gets and touches of `h`, and every lock is that of a touch that will slide the row. -/
structure TouchInv (h : Bytea) (T : Int → Prop) (s : SessionState) : Prop where
  txns : ∀ tid x, s.txns tid = some x → x.call.GetOrTouch h T ∧ x.phase.OfGetOrTouch
  keyed : Store.WellKeyed UserSession.tokenHash s.sessions
  pending : ∀ tid r, .pending tid r ∉ s.sessions
  locks : ∀ r tid d, .stored r (some (tid, d)) ∈ s.sessions → ∃ x idleTtl idle, s.txns tid = some x ∧
    x.call = .touch h idleTtl ∧ T idleTtl ∧ x.phase = .returned (.touched idle) ∧
    d = (SessionUpdate.slide x.now idleTtl).set r

namespace TouchInv

variable {h : Bytea} {T : Int → Prop} {s s' : SessionState} {tid : Tid} {x : SessionTxn} {e : SessionEffect}

private theorem init (h : Bytea) (T : Int → Prop) (db : Database) (clock : Int) :
    TouchInv h T (.ofDatabase db clock) where
  txns _ _ hx := nomatch hx
  keyed := .ofRows db.sessions_token_hash_key
  pending tid r hm := by
    obtain ⟨_, -, he⟩ := List.mem_map.1 hm
    cases he
  locks r tid d hm := by
    obtain ⟨_, -, he⟩ := List.mem_map.1 hm
    cases he

/-- A transaction that is not about to commit a touch holds no lock. -/
private theorem no_lock (hi : TouchInv h T s) (hx : s.txns tid = some x)
    (hp : ∀ idle, x.phase ≠ .returned (.touched idle)) {r d : UserSession} :
    .stored r (some (tid, d)) ∉ s.sessions := by
  intro hm
  obtain ⟨x', idleTtl, idle, hx', -, -, hp', -⟩ := hi.locks r tid d hm
  rw [hx] at hx'
  cases hx'
  exact hp idle hp'

private theorem own_lock_step (hi : TouchInv h T s) (hx : s.txns tid = some x)
    (hs : TouchStatement h T s.ids s.sessions tid x e) {r d : UserSession}
    (hm : .stored r (some (tid, d)) ∈ s.sessions.after tid e) :
    ∃ idleTtl idle, x.call = .touch h idleTtl ∧ T idleTtl ∧ (x.after e).phase = .returned (.touched idle) ∧
      d = (SessionUpdate.slide x.now idleTtl).set r := by
  cases hs with
  | gets hp | touchFails hp | touchFinds hp | waits hp =>
    exact absurd hm (hi.no_lock hx (by simp [hp]))
  | touches hp hc hT =>
    have hnone : ∀ r d, .stored r (some (tid, d)) ∉ s.sessions := fun r d => hi.no_lock hx (by simp [hp])
    rcases Store.own_mem_write hm with ⟨hm, -⟩ | ⟨-, -, rfl⟩ | ⟨d₀, hm, -⟩
    · exact absurd hm (hnone _ _)
    · exact ⟨_, _, hc, hT, rfl, rfl⟩
    · exact absurd hm (hnone _ _)
  | commits => exact absurd rfl (Store.locked_mem_commit.1 hm).2
  | aborts => exact absurd rfl (Store.locked_mem_abort.1 hm).2

private theorem pending_step (hi : TouchInv h T s) (hs : TouchStatement h T s.ids s.sessions tid x e) (u : Tid)
    (r : UserSession) : .pending u r ∉ s.sessions.after tid e := by
  intro hm
  cases hs with
  | gets | touchFails | touchFinds | waits => exact hi.pending u r hm
  | touches =>
    rcases Store.pending_mem_write.1 hm with ⟨hm, -⟩ | ⟨-, r₀, hm, -⟩
    · exact hi.pending u r hm
    · exact hi.pending _ r₀ hm
  | commits => exact hi.pending u r (Store.pending_mem_commit.1 hm).1
  | aborts => exact hi.pending u r (Store.pending_mem_abort.1 hm).1

private theorem apply (hi : TouchInv h T s) (hx : s.txns tid = some x)
    (hs : TouchStatement h T s.ids s.sessions tid x e) :
    TouchInv h T (s.apply tid x e) where
  txns u y hy := by
    by_cases hu : u = tid
    · subst hu
      rw [SessionState.apply_txns_self] at hy
      cases hy
      refine ⟨by rw [SessionTxn.after_call]; exact (hi.txns u x hx).1, ?_⟩
      cases hs with
      | waits => exact (hi.txns u x hx).2
      | _ => trivial
    · rw [SessionState.apply_txns_of_ne _ _ _ _ hu] at hy
      exact hi.txns u y hy
  keyed := by
    refine hi.keyed.after (fun f r => f.tokenHash_eq r) ?_
    intro new phase he
    cases hs <;> cases he
  pending := hi.pending_step hs
  locks r u d hm := by
    by_cases hu : u = tid
    · subst hu
      obtain ⟨idleTtl, idle, hc, hT, hp, hd⟩ := hi.own_lock_step hx hs hm
      exact ⟨_, idleTtl, idle, SessionState.apply_txns_self .., by rw [SessionTxn.after_call, hc], hT, hp,
        by rw [SessionTxn.after_now, hd]⟩
    · rw [SessionState.apply_sessions, Store.locked_after_of_ne hu] at hm
      obtain ⟨y, idleTtl, idle, hy, hrest⟩ := hi.locks r u d hm
      exact ⟨y, idleTtl, idle, by rw [SessionState.apply_txns_of_ne _ _ _ _ hu, hy], hrest⟩

private theorem tick (hi : TouchInv h T s) (d : Nat) : TouchInv h T { s with clock := s.clock + d } :=
  ⟨hi.txns, hi.keyed, hi.pending, hi.locks⟩

private theorem begin (hi : TouchInv h T s) (hn : s.txns tid = none) {call : SessionCall}
    (hcall : call.GetOrTouch h T) :
    TouchInv h T (s.put tid ⟨s.clock, call, .start, none, []⟩) where
  txns u y hy := by
    by_cases hu : u = tid
    · subst hu
      rw [SessionState.put_txns_self] at hy
      cases hy
      exact ⟨hcall, trivial⟩
    · rw [SessionState.put_txns_of_ne _ _ _ hu] at hy
      exact hi.txns u y hy
  keyed := hi.keyed
  pending := hi.pending
  locks r u d hm := by
    obtain ⟨y, idleTtl, idle, hy, hrest⟩ := hi.locks r u d hm
    have hne : u ≠ tid := by
      rintro rfl
      rw [hn] at hy
      cases hy
    exact ⟨y, idleTtl, idle, by rw [SessionState.put_txns_of_ne _ _ _ hne, hy], hrest⟩

/-- A step is the clock, a new get or touch, or a statement of one. -/
private theorem step_cases (hi : TouchInv h T s) {a : SessionAction} (ha : a.GetOrTouch h T)
    (hstep : sessionMachine.step s a = some s') :
    (∃ d : Nat, s' = { s with clock := s.clock + d }) ∨
    (∃ tid call, s.txns tid = none ∧ call.GetOrTouch h T ∧ s' = s.put tid ⟨s.clock, call, .start, none, []⟩) ∨
    (∃ tid x e, s.txns tid = some x ∧ TouchStatement h T s.ids s.sessions tid x e ∧ s' = s.apply tid x e ∧
      ∀ reply, e = .commit reply → a = .exec tid) := by
  rcases sessionMachine_action hstep with hd | ⟨tid, call, rfl, hn, rfl⟩ | ⟨tid, x, e, hx, hs, rfl, hc⟩
  · exact Or.inl hd
  · exact Or.inr (Or.inl ⟨tid, call, hn, ha, rfl⟩)
  · exact Or.inr (Or.inr ⟨tid, x, e, hx, hs.getOrTouch (hi.txns tid x hx).1 (hi.txns tid x hx).2, rfl, hc⟩)

private theorem step (hi : TouchInv h T s) {a : SessionAction} (ha : a.GetOrTouch h T)
    (hstep : sessionMachine.step s a = some s') : TouchInv h T s' := by
  rcases hi.step_cases ha hstep with ⟨d, rfl⟩ | ⟨tid, call, hn, hcall, rfl⟩ | ⟨tid, x, e, hx, hs, rfl, -⟩
  · exact hi.tick d
  · exact hi.begin hn hcall
  · exact hi.apply hx hs

/-- A committed row after a step was committed before, or is the slide that a touch commits. -/
private theorem rows_of_apply (hi : TouchInv h T s) (hx : s.txns tid = some x) {r' : UserSession}
    (hr' : r' ∈ (s.sessions.after tid e).rows) :
    r' ∈ s.sessions.rows ∨
    ∃ r idleTtl idle, r ∈ s.sessions.rows ∧ x.call = .touch h idleTtl ∧ T idleTtl ∧
      x.phase = .returned (.touched idle) ∧ (∃ reply, e = .commit reply) ∧
      r' = (SessionUpdate.slide x.now idleTtl).set r := by
  by_cases hc : ∃ reply, e = .commit reply
  · obtain ⟨reply, rfl⟩ := hc
    rcases Store.mem_rows_commit hr' with hr | ⟨r, hm⟩ | hm
    · exact Or.inl hr
    · obtain ⟨x', idleTtl, idle, hx', hcall, hT, hp, hd⟩ := hi.locks r tid r' hm
      rw [hx] at hx'
      cases hx'
      exact Or.inr ⟨r, idleTtl, idle, Store.mem_rows.2 ⟨_, hm⟩, hcall, hT, hp, ⟨reply, rfl⟩, hd⟩
    · exact absurd hm (hi.pending tid r')
  · rw [Store.rows_after fun reply he => hc ⟨reply, he⟩] at hr'
    exact Or.inl hr'

/-- A committed row stays, or the step commits a touch that slides it. -/
private theorem rows_apply (hi : TouchInv h T s) (hx : s.txns tid = some x) {r : UserSession}
    (hr : r ∈ s.sessions.rows) :
    r ∈ (s.sessions.after tid e).rows ∨
    ∃ idleTtl idle, x.call = .touch h idleTtl ∧ T idleTtl ∧ x.phase = .returned (.touched idle) ∧
      (∃ reply, e = .commit reply) ∧ (SessionUpdate.slide x.now idleTtl).set r ∈ (s.sessions.after tid e).rows := by
  by_cases hc : ∃ reply, e = .commit reply
  · obtain ⟨reply, rfl⟩ := hc
    rcases Store.rows_commit_cases tid hr with hr | ⟨d, hm⟩
    · exact Or.inl hr
    · obtain ⟨x', idleTtl, idle, hx', hcall, hT, hp, rfl⟩ := hi.locks r tid d hm
      rw [hx] at hx'
      cases hx'
      exact Or.inr ⟨idleTtl, idle, hcall, hT, hp, ⟨reply, rfl⟩, Store.draft_mem_rows_commit hm⟩
  · rw [Store.rows_after fun reply he => hc ⟨reply, he⟩]
    exact Or.inl hr

end TouchInv

/-! ### Expired sessions stay expired -/

private theorem getUserSession_expired {users : List User} {rows : List UserSession} {now : Int} {h : Bytea}
    (hg : getUserSession users rows now h = .error .sessionExpired) :
    ∃ r, findBy UserSession.tokenHash h rows = some r ∧ ¬ r.Live now := by
  simp only [getUserSession] at hg
  split at hg
  · cases hg
  · rename_i r u hf
    obtain ⟨r', hr', hu⟩ := Option.bind_eq_some_iff.1 hf
    obtain ⟨u', -, he⟩ := Option.map_eq_some_iff.1 hu
    cases he
    refine ⟨r, hr', fun hl => ?_⟩
    rw [UserSession.check_ok.2 hl] at hg
    cases hg

/-- No row of `h` is live at the `now()` of an expired `get`. -/
def StaysExpired (h : Bytea) (s : SessionState) : Prop :=
  ∀ t, ExpiredGet h s t → ∀ r ∈ s.sessions.rows, r.tokenHash = h → ¬ r.Live t

private theorem StaysExpired.permanent {h : Bytea} {s : SessionState} (hs : StaysExpired h s) :
    ExpiryPermanent h s := by
  intro t ht now hle data hg
  obtain ⟨r, hf, hl⟩ := getUserSession_ok hg
  obtain ⟨hr, hk⟩ := findBy_some hf
  exact hs t ht r hr hk (hl.earlier hle)

/-- An expired `get` after a statement was there before, or the statement is its read. -/
private theorem TouchStatement.expiredGet {h : Bytea} {T : Int → Prop} {s : SessionState} {tid : Tid} {x : SessionTxn}
    {e : SessionEffect} (hx : s.txns tid = some x) (hs : TouchStatement h T s.ids s.sessions tid x e) {t : Int}
    (ht : ExpiredGet h (s.apply tid x e) t) :
    ExpiredGet h s t ∨
    (getUserSession s.ids.users s.sessions.rows t h = .error .sessionExpired ∧
      (s.sessions.after tid e).rows = s.sessions.rows) := by
  obtain ⟨u, y, hy, hcall, hnow, hp⟩ := ht
  by_cases hu : u = tid
  · subst hu
    rw [SessionState.apply_txns_self] at hy
    cases hy
    rw [SessionTxn.after_call] at hcall
    rw [SessionTxn.after_now] at hnow
    cases hs with
    | gets =>
      subst hnow
      right
      refine ⟨?_, rfl⟩
      cases hg : getUserSession s.ids.users s.sessions.rows x.now h with
      | ok data => rw [hg] at hp; cases hp
      | error err =>
        rw [hg] at hp
        cases hp
        rfl
    | touchFails _ hc | touchFinds _ hc | touches _ hc =>
      rw [hc] at hcall
      cases hcall
    | waits hph => rw [SessionTxn.after, hph] at hp; cases hp
    | commits hph =>
      left
      refine ⟨u, x, hx, hcall, hnow, ?_⟩
      rw [hph]
      exact hp
    | aborts => cases hp
  · rw [SessionState.apply_txns_of_ne _ _ _ _ hu] at hy
    exact Or.inl ⟨u, y, hy, hcall, hnow, hp⟩

private theorem StaysExpired.step {h : Bytea} {T : Int → Prop} {s s' : SessionState} {a : SessionAction}
    (he : StaysExpired h s) (hi : TouchInv h T s) (ha : a.GetOrTouch h T) (hlate : NoLateSlide h s a)
    (hstep : sessionMachine.step s a = some s') : StaysExpired h s' := by
  rcases hi.step_cases ha hstep with ⟨d, rfl⟩ | ⟨tid, call, hn, -, rfl⟩ | ⟨tid, x, e, hx, hs, rfl, hexec⟩
  · exact he
  · intro t ⟨u, y, hy, hcall, hnow, hp⟩
    have hne : u ≠ tid := by
      rintro rfl
      rw [SessionState.put_txns_self] at hy
      cases hy
      cases hp
    rw [SessionState.put_txns_of_ne _ _ _ hne] at hy
    exact he t ⟨u, y, hy, hcall, hnow, hp⟩
  · intro t ht r' hr' hk
    rcases hs.expiredGet hx ht with ht | ⟨hg, hrows⟩
    · rcases hi.rows_of_apply hx hr' with hr | ⟨r, idleTtl, idle, hr, hcall, -, hp, ⟨reply, hc⟩, rfl⟩
      · exact he t ht r' hr hk
      -- the slide is no late one: its window ends before `t`, or the session does
      · rintro ⟨-, habs, hidle⟩
        rcases hlate tid x idleTtl idle (hexec reply hc) hx hcall hp t ht with hle | hall
        · have hwin : ((SessionUpdate.slide x.now idleTtl).set r).idleExpiresAt ≤ x.now + idleTtl :=
            Int.min_le_left _ _
          omega
        · have hend : ((SessionUpdate.slide x.now idleTtl).set r).absoluteExpiresAt ≤ t := hall r hr hk
          omega
    · obtain ⟨r, hf, hl⟩ := getUserSession_expired hg
      obtain ⟨hr, hrk⟩ := findBy_some hf
      rw [SessionState.apply_sessions, hrows] at hr'
      rw [hi.keyed.rows_eq hr' hr (hk.trans hrk.symm)]
      exact hl

/-! ### The idle expiry grows -/

/-- No transaction started before `last`, and the idle expiry of `h` is that of its state at `last` or of a committed
touch. -/
structure IdleWindow (h : Bytea) (ttl last : Int) (s : SessionState) : Prop where
  clock : last ≤ s.clock
  txns : ∀ tid x, s.txns tid = some x → last ≤ x.now
  rows : ∀ r ∈ s.sessions.rows, r.tokenHash = h → ∃ start, r.idleExpiresAt = min (start + ttl) r.absoluteExpiresAt ∧
    (start = last ∨ ∃ tid y idle, s.txns tid = some y ∧ y.phase = .committed (.touched idle) ∧ y.now = start)

namespace IdleWindow

variable {h : Bytea} {T : Int → Prop} {ttl last : Int} {s s' : SessionState} {a : SessionAction}

/-- A committed touch stays committed. -/
private theorem committed_apply {tid u : Tid} {x y : SessionTxn} {e : SessionEffect} {idle : Int}
    (hx : s.txns tid = some x) (hs : TouchStatement h T s.ids s.sessions tid x e) (hy : s.txns u = some y)
    (hp : y.phase = .committed (.touched idle)) : (s.apply tid x e).txns u = some y := by
  have hne : u ≠ tid := by
    rintro rfl
    rw [hx] at hy
    cases hy
    cases hs with
    | gets hph | touchFails hph | touchFinds hph | waits hph | touches hph | commits hph => rw [hph] at hp; cases hp
    | aborts hph => rw [hp] at hph; cases hph
  rw [SessionState.apply_txns_of_ne _ _ _ _ hne, hy]

private theorem step (hw : IdleWindow h ttl last s) (hi : TouchInv h (· = ttl) s) (ha : a.GetOrTouch h (· = ttl))
    (hstep : sessionMachine.step s a = some s') : IdleWindow h ttl last s' := by
  rcases hi.step_cases ha hstep with ⟨d, rfl⟩ | ⟨tid, call, hn, -, rfl⟩ | ⟨tid, x, e, hx, hs, rfl, -⟩
  · have hclock := hw.clock
    exact ⟨by show last ≤ s.clock + d; omega, hw.txns, hw.rows⟩
  · refine ⟨hw.clock, fun u y hy => ?_, fun r hr hk => ?_⟩
    · by_cases hu : u = tid
      · subst hu
        rw [SessionState.put_txns_self] at hy
        cases hy
        exact hw.clock
      · rw [SessionState.put_txns_of_ne _ _ _ hu] at hy
        exact hw.txns u y hy
    · obtain ⟨start, hidle, hf⟩ := hw.rows r hr hk
      refine ⟨start, hidle, hf.imp_right ?_⟩
      rintro ⟨u, y, idle, hy, hp, hnow⟩
      have hne : u ≠ tid := by
        rintro rfl
        rw [hn] at hy
        cases hy
      exact ⟨u, y, idle, by rw [SessionState.put_txns_of_ne _ _ _ hne, hy], hp, hnow⟩
  · refine ⟨hw.clock, fun u y hy => ?_, fun r' hr' hk => ?_⟩
    · by_cases hu : u = tid
      · subst hu
        rw [SessionState.apply_txns_self] at hy
        cases hy
        rw [SessionTxn.after_now]
        exact hw.txns u x hx
      · rw [SessionState.apply_txns_of_ne _ _ _ _ hu] at hy
        exact hw.txns u y hy
    · rcases hi.rows_of_apply hx hr' with hr | ⟨r, idleTtl, idle, -, -, rfl, hp, ⟨reply, rfl⟩, rfl⟩
      · obtain ⟨start, hidle, hf⟩ := hw.rows r' hr hk
        refine ⟨start, hidle, hf.imp_right ?_⟩
        rintro ⟨u, y, idle, hy, hp, hnow⟩
        exact ⟨u, y, idle, committed_apply hx hs hy hp, hp, hnow⟩
      · refine ⟨x.now, rfl, Or.inr ⟨tid, x.after (.commit reply), idle, SessionState.apply_txns_self .., ?_, rfl⟩⟩
        cases hs with
        | commits hph =>
          rw [hp] at hph
          cases hph
          rfl

/-- A touch that commits in the order of the starts does not shorten the window. -/
private theorem grows (hw : IdleWindow h ttl last s) (hi : TouchInv h (· = ttl) s) (ha : a.GetOrTouch h (· = ttl))
    (horder : TouchesInOrder h s a) : IdleGrows h s a := by
  intro s' hstep r hr hk
  rcases hi.step_cases ha hstep with ⟨d, rfl⟩ | ⟨tid, call, -, -, rfl⟩ | ⟨tid, x, e, hx, hs, rfl, hexec⟩
  · exact ⟨r, hr, hk, Int.le_refl _⟩
  · exact ⟨r, hr, hk, Int.le_refl _⟩
  · rcases hi.rows_apply (e := e) hx hr with hr' | ⟨idleTtl, idle, hcall, rfl, hp, ⟨reply, hc⟩, hr'⟩
    · exact ⟨r, hr', hk, Int.le_refl _⟩
    · refine ⟨_, hr', by rw [SessionUpdate.tokenHash_eq]; exact hk, ?_⟩
      show r.idleExpiresAt ≤ min (x.now + idleTtl) r.absoluteExpiresAt
      -- the window of the row is that of the login, or of the touch that was committed last
      obtain ⟨start, hidle, rfl | ⟨u, y, idle', hy, hpy, rfl⟩⟩ := hw.rows r hr hk
      · have hstart := hw.txns tid x hx
        omega
      · rcases horder tid x idleTtl idle (hexec reply hc) hx hcall hp u y idle' hy hpy with hle | hall
        · omega
        · have habs := hall r hr hk
          omega

end IdleWindow

/-- A `get` that has answered SESSION_EXPIRED at `t` rules out every later success at or after `t`, in a run in which
no touch commits an idle window reaching past such a `t`; and where all touches use the TTL of the session and commit
in the order of their starts, no step decreases the committed `idle_expires_at`. -/
theorem expiry_permanent (db : Database) (clock : Int) (h : Bytea) (as : List SessionAction)
    (hcalls : ∀ a ∈ as, a.GetOrTouch h fun _ => True) :
    (sessionMachine.Along (NoLateSlide h) (.ofDatabase db clock) as →
      ∀ s, sessionMachine.run (.ofDatabase db clock) as = some s → ExpiryPermanent h s) ∧
    ∀ ttl last, last ≤ clock →
      (∀ r ∈ db.userSessions, r.tokenHash = h → r.idleExpiresAt = min (last + ttl) r.absoluteExpiresAt) →
      (∀ a ∈ as, a.GetOrTouch h (· = ttl)) →
      sessionMachine.Along (TouchesInOrder h) (.ofDatabase db clock) as →
        sessionMachine.Along (IdleGrows h) (.ofDatabase db clock) as := by
  constructor
  · intro hlate s hrun
    have hcall : sessionMachine.Along (fun _ a => a.GetOrTouch h fun _ => True) (.ofDatabase db clock) as :=
      .of_forall (fun a ha _ => hcalls a ha) _
    have hinv : TouchInv h (fun _ => True) s ∧ StaysExpired h s :=
      Machine.along_induction (P := fun s => TouchInv h (fun _ => True) s ∧ StaysExpired h s)
        (fun s a s' hi hc hst => ⟨hi.1.step hc.1 hst, hi.2.step hi.1 hc.1 hc.2 hst⟩) hrun (hcall.and hlate)
        ⟨.init h _ db clock, fun t ht => by obtain ⟨_, _, hx, -⟩ := ht; cases hx⟩
    exact hinv.2.permanent
  · intro ttl last hlast hidle hcalls horder
    have hcall : sessionMachine.Along (fun _ a => a.GetOrTouch h (· = ttl)) (.ofDatabase db clock) as :=
      .of_forall (fun a ha _ => hcalls a ha) _
    refine Machine.Along.of_invariant (P := fun s => TouchInv h (· = ttl) s ∧ IdleWindow h ttl last s)
      (fun s a s' hi hc hst => ⟨hi.1.step hc.1 hst, hi.2.step hi.1 hc.1 hst⟩)
      (fun s a hi hc => hi.2.grows hi.1 hc.1 hc.2) (hcall.and horder) ⟨.init h _ db clock, hlast, ?_, ?_⟩
    · intro tid x hx
      cases hx
    · intro r hr hk
      rw [SessionState.ofDatabase, Store.rows_ofRows] at hr
      exact ⟨last, hidle r hr hk, Or.inl rfl⟩

/-! ### Sample runs -/

/-- One session, created at 0. -/
def oneSession : Database := ((SessionCall.create 100 (loginArgs 1)).exec (Database.empty oneMember) 0).1

/-- The TTL of a touch of `h` that is about to commit. -/
def SessionTxn.slides (x : SessionTxn) (h : Bytea) : Option Int :=
  match x.call, x.phase with
  | .touch k idleTtl, .returned (.touched _) => if k = h then some idleTtl else none
  | _, _ => none

def SessionTxn.hasTouched (x : SessionTxn) : Bool :=
  match x.phase with
  | .committed (.touched _) => true
  | _ => false

/-- The slide of `x` is no late one for `y`, and `y` is not a later touch. -/
def SessionTxn.SlidesInOrder (x y : SessionTxn) (h : Bytea) (idleTtl : Int) (rows : List UserSession) : Prop :=
  (y.call = .get h → y.phase.replied = some (.failed .sessionExpired) →
    x.now + idleTtl ≤ y.now ∨ ∀ r ∈ rows, r.tokenHash = h → r.absoluteExpiresAt ≤ y.now) ∧
  (y.hasTouched → y.now ≤ x.now ∨ ∀ r ∈ rows, r.tokenHash = h → r.absoluteExpiresAt ≤ x.now + idleTtl)

instance (x y : SessionTxn) (h : Bytea) (idleTtl : Int) (rows : List UserSession) :
    Decidable (x.SlidesInOrder y h idleTtl rows) := inferInstanceAs (Decidable (_ ∧ _))

/-- `NoLateSlide` and `TouchesInOrder` where only the transactions below `n` have started. -/
def InOrderBelow (n : Nat) (h : Bytea) (s : SessionState) (a : SessionAction) : Prop :=
  ∀ tid < n, a = .exec tid → ∀ x ∈ s.txns tid, ∀ idleTtl ∈ x.slides h, ∀ u < n, ∀ y ∈ s.txns u,
    x.SlidesInOrder y h idleTtl s.sessions.rows

instance (n : Nat) (h : Bytea) (s : SessionState) (a : SessionAction) : Decidable (InOrderBelow n h s a) :=
  inferInstanceAs (Decidable (∀ tid < n, _))

/-- The transactions that start are numbered below `n`. -/
def SessionAction.StartsBelow (n : Nat) : SessionAction → Prop
  | start tid _ => tid < n
  | _ => True

instance (n : Nat) (a : SessionAction) : Decidable (a.StartsBelow n) := by
  cases a <;> unfold SessionAction.StartsBelow <;> infer_instance

private theorem startedBelow_step {n : Tid} {s s' : SessionState} {a : SessionAction} (ha : a.StartsBelow n)
    (hs : ∀ tid x, s.txns tid = some x → tid < n) (hstep : sessionMachine.step s a = some s') :
    ∀ tid x, s'.txns tid = some x → tid < n := by
  intro tid y hy
  rcases sessionMachine_action hstep with ⟨d, rfl⟩ | ⟨u, call, rfl, -, rfl⟩ | ⟨u, x, e, hx, -, rfl, -⟩
  · exact hs tid y hy
  · by_cases hu : tid = u
    · exact hu ▸ ha
    · rw [SessionState.put_txns_of_ne _ _ _ hu] at hy
      exact hs tid y hy
  · by_cases hu : tid = u
    · exact hu ▸ hs u x hx
    · rw [SessionState.apply_txns_of_ne _ _ _ _ hu] at hy
      exact hs tid y hy

private theorem InOrderBelow.conditions {n : Tid} {h : Bytea} {s : SessionState} {a : SessionAction}
    (hc : InOrderBelow n h s a) (hs : ∀ tid x, s.txns tid = some x → tid < n) :
    NoLateSlide h s a ∧ TouchesInOrder h s a := by
  have hslides : ∀ {x : SessionTxn} {idleTtl idle}, x.call = .touch h idleTtl →
      x.phase = .returned (.touched idle) → x.slides h = some idleTtl := by
    intro x idleTtl idle hcall hp
    simp [SessionTxn.slides, hcall, hp]
  constructor
  · rintro tid x idleTtl idle ha hx hcall hp t ⟨u, y, hy, hget, rfl, hr⟩
    exact (hc tid (hs tid x hx) ha x hx idleTtl (hslides hcall hp) u (hs u y hy) y hy).1 hget hr
  · intro tid x idleTtl idle ha hx hcall hp u y idle' hy hpy
    exact (hc tid (hs tid x hx) ha x hx idleTtl (hslides hcall hp) u (hs u y hy) y hy).2
      (by simp [SessionTxn.hasTouched, hpy])

/-- Two touches that commit in order, a `get` that finds the session expired a day later, and a touch after it. -/
def orderlyTouches : List SessionAction :=
  [.tick 1000, .start 0 (.touch (hashOf 1) 86400000000), .exec 0, .tick 1000,
    .start 1 (.touch (hashOf 1) 86400000000), .exec 0, .exec 0, .exec 1, .exec 1, .exec 1, .tick 86400000000,
    .start 2 (.get (hashOf 1)), .exec 2, .exec 2, .start 3 (.touch (hashOf 1) 86400000000), .exec 3, .exec 3]

theorem expiry_permanent_sample :
    (∃ s, sessionMachine.run (.ofDatabase oneSession 0) orderlyTouches = some s ∧
      ExpiredGet (hashOf 1) s 86400002000 ∧ ExpiryPermanent (hashOf 1) s) ∧
    sessionMachine.Along (IdleGrows (hashOf 1)) (.ofDatabase oneSession 0) orderlyTouches := by
  have hcalls : ∀ a ∈ orderlyTouches, a.GetOrTouch (hashOf 1) (· = 86400000000) := by
    simp [orderlyTouches, SessionAction.GetOrTouch, SessionCall.GetOrTouch]
  have hany : ∀ a ∈ orderlyTouches, a.GetOrTouch (hashOf 1) fun _ => True := by
    simp [orderlyTouches, SessionAction.GetOrTouch, SessionCall.GetOrTouch]
  have hstarts : ∀ a ∈ orderlyTouches, a.StartsBelow 4 := by decide
  have hbelow : sessionMachine.Along (InOrderBelow 4 (hashOf 1)) (.ofDatabase oneSession 0) orderlyTouches := by
    decide
  have hconds : sessionMachine.Along (fun s a => NoLateSlide (hashOf 1) s a ∧ TouchesInOrder (hashOf 1) s a)
      (.ofDatabase oneSession 0) orderlyTouches :=
    Machine.Along.of_invariant (P := fun s => ∀ tid x, s.txns tid = some x → tid < 4)
      (fun s a s' hs hc hst => startedBelow_step hc.1 hs hst) (fun s a hs hc => hc.2.conditions hs)
      ((Machine.Along.of_forall (fun a ha _ => hstarts a ha) _).and hbelow) (fun _ _ hx => nomatch hx)
  have hidle : ∀ r ∈ oneSession.userSessions, r.tokenHash = hashOf 1 →
      r.idleExpiresAt = min (0 + 86400000000) r.absoluteExpiresAt := by decide
  have hrun : (sessionMachine.run (.ofDatabase oneSession 0) orderlyTouches).map (fun s => s.txns 2) =
      some (some ⟨86400002000, .get (hashOf 1), .committed (.failed .sessionExpired), none, []⟩) := by decide
  obtain ⟨s, hs, hget⟩ := Option.map_eq_some_iff.1 hrun
  have h := expiry_permanent oneSession 0 (hashOf 1) orderlyTouches hany
  exact ⟨⟨s, hs, ⟨2, _, hget, rfl, rfl, rfl⟩, h.1 (hconds.mono fun _ _ hc => hc.1) s hs⟩,
    h.2 86400000000 0 (Int.le_refl _) hidle hcalls (hconds.mono fun _ _ hc => hc.2)⟩

/-- A touch has checked the session, a `get` finds it expired, the touch slides it and commits: the session is back.
And of two touches that overlap, the one that started first commits last: the idle expiry goes back. -/
theorem touch_revives :
    (¬ ∀ db clock h as s, (∀ a ∈ as, SessionAction.GetOrTouch h (fun _ => True) a) →
      sessionMachine.run (.ofDatabase db clock) as = some s → ExpiryPermanent h s) ∧
    ¬ ∀ db clock h as ttl last, 0 < ttl → last ≤ clock →
      (∀ r ∈ db.userSessions, r.tokenHash = h → r.idleExpiresAt = min (last + ttl) r.absoluteExpiresAt) →
      (∀ a ∈ as, SessionAction.GetOrTouch h (· = ttl) a) →
      sessionMachine.Along (IdleGrows h) (.ofDatabase db clock) as := by
  constructor
  · intro hclaim
    have hrun : (sessionMachine.run (.ofDatabase oneSession 0)
        [.tick 86000000000, .start 0 (.touch (hashOf 1) 86400000000), .exec 0, .tick 400000000,
          .start 1 (.get (hashOf 1)), .exec 1, .exec 1, .exec 0, .exec 0]).map (fun s =>
          (s.txns 1, (getUserSession s.ids.users s.sessions.rows 86400000000 (hashOf 1)).toOption.isSome)) =
        some (some ⟨86400000000, .get (hashOf 1), .committed (.failed .sessionExpired), none, []⟩, true) := by
      decide
    obtain ⟨s, hs, he⟩ := Option.map_eq_some_iff.1 hrun
    obtain ⟨htxn, hget⟩ := Prod.mk.inj he
    have hdead := hclaim _ _ (hashOf 1) _ s (by simp [SessionAction.GetOrTouch, SessionCall.GetOrTouch])
      hs 86400000000 ⟨1, _, htxn, rfl, rfl, rfl⟩ 86400000000 (Int.le_refl _)
    cases hg : getUserSession s.ids.users s.sessions.rows 86400000000 (hashOf 1) with
    | error e => rw [hg] at hget; cases hget
    | ok data => exact hdead data hg
  · intro hclaim
    have hrun : ((sessionMachine.run (.ofDatabase oneSession 0)
        [.tick 1000, .start 0 (.touch (hashOf 1) 86400000000), .tick 1000,
          .start 1 (.touch (hashOf 1) 86400000000), .exec 1, .exec 1, .exec 1, .exec 0, .exec 0]).bind fun s =>
        (sessionMachine.step s (.exec 0)).map fun s' =>
          (s.sessions.rows.map UserSession.idleExpiresAt, s'.sessions.rows.map UserSession.idleExpiresAt,
            s.sessions.rows.map UserSession.tokenHash)) =
        some ([86400002000], [86400001000], [hashOf 1]) := by decide
    obtain ⟨s, hs, he⟩ := Option.bind_eq_some_iff.1 hrun
    obtain ⟨s', hs', he⟩ := Option.map_eq_some_iff.1 he
    simp only [Prod.mk.injEq] at he
    obtain ⟨hbefore, hafter, hhash⟩ := he
    have hidle : ∀ r ∈ oneSession.userSessions, r.tokenHash = hashOf 1 →
        r.idleExpiresAt = min (0 + 86400000000) r.absoluteExpiresAt := by decide
    have halong := hclaim oneSession 0 (hashOf 1)
      ([.tick 1000, .start 0 (.touch (hashOf 1) 86400000000), .tick 1000,
        .start 1 (.touch (hashOf 1) 86400000000), .exec 1, .exec 1, .exec 1, .exec 0, .exec 0] ++ [.exec 0])
      86400000000 0 (by decide) (by decide) hidle (by simp [SessionAction.GetOrTouch, SessionCall.GetOrTouch])
    -- the last step, which commits the touch that started first
    have hgrows := (Machine.Along.append hs halong).2.1 s' hs'
    obtain ⟨r, hr⟩ := List.map_eq_singleton_iff.1 hbefore
    rw [hr.1] at hgrows hhash
    obtain ⟨r', hr', -, hle⟩ := hgrows r (List.mem_singleton_self r) (by simpa using hhash)
    have hidle' : r'.idleExpiresAt ∈ s'.sessions.rows.map UserSession.idleExpiresAt := List.mem_map_of_mem hr'
    rw [hafter, List.mem_singleton] at hidle'
    omega

end CleanBackend
