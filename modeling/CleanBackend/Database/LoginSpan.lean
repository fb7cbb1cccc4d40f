import CleanBackend.Database.RotationInvariant

/-!
# How long a login lasts

Every session descends from a login: a committed `create_user_session` with its user and its tenant, and with its
absolute expiry.  Rotations, in any interleaving with other transactions, hand these on, so that no `get_user_session`
finds a session at or after the end of its login (`login_span`).
-/

namespace CleanBackend

/-- `r` is a session of the login that `x` makes. -/
def UserSession.OfLogin (r : UserSession) (x : SessionTxn) : Prop :=
  ∃ id a, x.call = .create id a ∧ r.userId = a.userId ∧ r.tenantId = a.tenantId ∧
    r.absoluteExpiresAt = x.now + a.absoluteTtl ∧ r.idleExpiresAt ≤ r.absoluteExpiresAt

def SessionPhase.isCommitted : SessionPhase → Bool
  | committed (.created _) => true
  | _ => false

/-- `r` descends from a committed login. -/
def SessionState.Rooted (s : SessionState) (r : UserSession) : Prop :=
  ∃ t x, s.txns t = some x ∧ x.phase.isCommitted = true ∧ r.OfLogin x

/-- The session that a transaction has read. -/
def SessionState.Reads (s : SessionState) (now : Int) (d : ActiveSession) : Prop :=
  ∃ r email, d = r.active email ∧ s.Rooted r ∧ r.Live now

/-- What a transaction has in hand. -/
def SessionState.InHand (s : SessionState) (x : SessionTxn) : Prop :=
  match x.phase with
  | .inserting new none => new.OfLogin x
  | .inserting new (some _) | .revokingOld _ new => s.Rooted new
  | .returned (.session d) | .committed (.session d) => s.Reads x.now d
  | _ => True

structure SpanInv (s : SessionState) : Prop where
  rows : ∀ r ∈ s.sessions.rows, s.Rooted r
  drafts : ∀ r t d, .stored r (some (t, d)) ∈ s.sessions → s.Rooted d
  pendings : ∀ t n, .pending t n ∈ s.sessions → s.Rooted n ∨ ∃ x, s.txns t = some x ∧ n.OfLogin x
  hands : ∀ t x, s.txns t = some x → s.InHand x

section Step

variable {s : SessionState} {tid : Tid} {x : SessionTxn} {e : SessionEffect} {r : UserSession}

/-- A later version of a session of the login. -/
private theorem UserSession.OfLogin.set (h : r.OfLogin x) {u : SessionUpdate}
    (hu : (u.set r).absoluteExpiresAt = r.absoluteExpiresAt) : (u.set r).OfLogin x := by
  obtain ⟨id, a, hc, huser, htenant, habs, hidle⟩ := h
  exact ⟨id, a, hc, (u.userId_eq r).trans huser, (u.tenantId_eq r).trans htenant, hu.trans habs,
    u.idle_within_absolute r hidle⟩

/-- A rotation hands the login on. -/
private theorem UserSession.OfLogin.row (h : r.OfLogin x) (id : Uuid) (now : Int) (a : RotateArgs) :
    (a.row id now r).OfLogin x := by
  obtain ⟨id', b, hc, huser, htenant, habs, -⟩ := h
  exact ⟨id', b, hc, huser, htenant, habs, Int.min_le_right _ _⟩

private theorem SessionState.Rooted.map {r' : UserSession} (h : s.Rooted r) (hr : ∀ x, r.OfLogin x → r'.OfLogin x) :
    s.Rooted r' :=
  let ⟨t, x, hx, hp, ho⟩ := h
  ⟨t, x, hx, hp, hr x ho⟩

/-- No statement sets an absolute expiry. -/
private theorem Statement.write_absolute {ids : IdentityTables} {S : Store Tid UserSession} {id : Uuid}
    {u : SessionUpdate} {phase : SessionPhase} (hs : Statement ids S tid x (.write id u phase)) (r : UserSession) :
    (u.set r).absoluteExpiresAt = r.absoluteExpiresAt := by
  cases hs <;> rfl

private theorem SessionTxn.after_now_call (x : SessionTxn) (e : SessionEffect) :
    (x.after e).now = x.now ∧ (x.after e).call = x.call := by
  cases e <;> exact ⟨rfl, rfl⟩

private theorem UserSession.OfLogin.after (h : r.OfLogin x) (e : SessionEffect) : r.OfLogin (x.after e) := by
  obtain ⟨hnow, hcall⟩ := x.after_now_call e
  obtain ⟨id, a, hc, h⟩ := h
  exact ⟨id, a, hcall.trans hc, hnow.symm ▸ h⟩

/-- A committed login stays. -/
private theorem SessionState.Rooted.apply (h : s.Rooted r) (hx : s.txns tid = some x)
    (hs : Statement s.ids s.sessions tid x e) : (s.apply tid x e).Rooted r := by
  obtain ⟨t, x', hx', hp, ho⟩ := h
  refine ⟨t, x', ?_, hp, ho⟩
  have ht : t ≠ tid := by
    rintro rfl
    cases hx.symm.trans hx'
    have hu := hs.unfinished
    unfold SessionPhase.isCommitted at hp
    split at hp
    · rename_i hphase
      rw [hphase] at hu
      cases hu
    · cases hp
  rw [SessionState.apply_txns_of_ne _ _ _ _ ht]
  exact hx'

private theorem SessionState.Reads.apply {now : Int} {d : ActiveSession} (h : s.Reads now d)
    (hx : s.txns tid = some x)
    (hs : Statement s.ids s.sessions tid x e) : (s.apply tid x e).Reads now d :=
  let ⟨r, email, hd, hr, hl⟩ := h
  ⟨r, email, hd, hr.apply hx hs, hl⟩

/-- What `get_user_session` reads is a live row of the snapshot. -/
private theorem getUserSession_active {users : List User} {rows : List UserSession} {now : Int} {h : Bytea}
    {d : ActiveSession} (hg : getUserSession users rows now h = .ok d) :
    ∃ r ∈ rows, ∃ email, d = r.active email ∧ r.Live now := by
  simp only [getUserSession] at hg
  split at hg
  · cases hg
  · rename_i r u hf
    obtain ⟨r', hr', hu⟩ := Option.bind_eq_some_iff.1 hf
    obtain ⟨u', -, he⟩ := Option.map_eq_some_iff.1 hu
    cases he
    cases hc : r.check now with
    | error e =>
      rw [hc] at hg
      cases hg
    | ok _ =>
      rw [hc] at hg
      cases hg
      exact ⟨r, (findBy_some hr').1, u.email, rfl, UserSession.check_ok.1 hc⟩

namespace SpanInv

private theorem rows_step (h : SpanInv s) (hrot : RotationInv s) (hx : s.txns tid = some x)
    (hs : Statement s.ids s.sessions tid x e) {r : UserSession} (hr : r ∈ (s.sessions.after tid e).rows) :
    (s.apply tid x e).Rooted r := by
  by_cases hc : ∃ reply, e = .commit reply
  · obtain ⟨reply, rfl⟩ := hc
    rcases Store.mem_rows_commit hr with hr | ⟨r₀, hm⟩ | hm
    · exact (h.rows r hr).apply hx hs
    · exact (h.drafts r₀ tid r hm).apply hx hs
    · rcases h.pendings tid r hm with hr | ⟨x', hx', ho⟩
      · exact hr.apply hx hs
      · -- the login itself commits
        cases hx.symm.trans hx'
        have hp := (hrot.pending_of hx hm).2
        rw [hs.commit_phase] at hp
        cases reply with
        | created c => exact ⟨tid, _, SessionState.apply_txns_self .., rfl, ho.after _⟩
        | session _ | touched _ | revoked | revokedCount _ | failed _ | aborted _ => exact hp.elim
  · rw [Store.rows_after fun reply he => hc ⟨reply, he⟩] at hr
    exact (h.rows r hr).apply hx hs

private theorem drafts_step (h : SpanInv s) (hx : s.txns tid = some x) (hs : Statement s.ids s.sessions tid x e)
    {r d : UserSession} {t : Tid} (hm : .stored r (some (t, d)) ∈ s.sessions.after tid e) :
    (s.apply tid x e).Rooted d := by
  by_cases ht : t = tid
  · subst ht
    cases e with
    | goto _ | wait _ => exact (h.drafts r t d hm).apply hx hs
    | write id u phase =>
      have hu := fun r => hs.write_absolute r
      rcases Store.locked_mem_write.1 hm with ⟨hold, -⟩ | ⟨-, -, hold, rfl⟩ | ⟨-, -, d₀, hold, rfl⟩
      · exact (h.drafts r t d hold).apply hx hs
      · exact ((h.rows r (Store.mem_rows.2 ⟨_, hold⟩)).apply hx hs).map fun y hy => hy.set (hu r)
      · exact ((h.drafts r t d₀ hold).apply hx hs).map fun y hy => hy.set (hu d₀)
    | insert new phase =>
      rcases Store.mem_insert.1 hm with hm | hm
      · exact (h.drafts r t d hm).apply hx hs
      · cases hm
    | commit reply => exact absurd rfl (Store.locked_mem_commit.1 hm).2
    | rollback cause => exact absurd rfl (Store.locked_mem_abort.1 hm).2
  · exact (h.drafts r t d ((Store.locked_after_of_ne ht).1 hm)).apply hx hs

private theorem pendings_step (h : SpanInv s) (hx : s.txns tid = some x) (hs : Statement s.ids s.sessions tid x e)
    {n : UserSession} {t : Tid} (hm : .pending t n ∈ s.sessions.after tid e) :
    (s.apply tid x e).Rooted n ∨ ∃ y, (s.apply tid x e).txns t = some y ∧ n.OfLogin y := by
  by_cases ht : t = tid
  · subst ht
    have hself := s.apply_txns_self t x e
    have hkeep : ∀ n, .pending t n ∈ s.sessions → (s.apply t x e).Rooted n ∨ n.OfLogin (x.after e) := by
      intro n hm
      rcases h.pendings t n hm with hr | ⟨x', hx', ho⟩
      · exact Or.inl (hr.apply hx hs)
      · cases hx.symm.trans hx'
        exact Or.inr (ho.after e)
    suffices hn : (s.apply t x e).Rooted n ∨ n.OfLogin (x.after e) from
      hn.imp_right fun ho => ⟨_, hself, ho⟩
    cases e with
    | goto _ | wait _ => exact hkeep n hm
    | write id u phase =>
      rcases Store.pending_mem_write.1 hm with ⟨hold, -⟩ | ⟨-, n₀, hold, -, rfl⟩
      · exact hkeep n hold
      · have hu := hs.write_absolute n₀
        exact (hkeep n₀ hold).imp (·.map fun y hy => hy.set hu) (·.set hu)
    | insert new phase =>
      rcases Store.mem_insert.1 hm with hm | hm
      · exact hkeep n hm
      · obtain rfl : n = new := (Slot.pending.inj hm).2
        -- a row is inserted for a login, or for the successor of a session
        have hand := h.hands t x hx
        unfold SessionState.InHand at hand
        cases hs with
        | insertsFirst hp =>
          rw [hp] at hand
          exact Or.inr (UserSession.OfLogin.after hand _)
        | insertsNext hp hid hth =>
          rw [hp] at hand
          exact Or.inl (SessionState.Rooted.apply hand hx (.insertsNext hp hid hth))
    | commit reply => exact absurd rfl (Store.pending_mem_commit.1 hm).2
    | rollback cause => exact absurd rfl (Store.pending_mem_abort.1 hm).2
  · rcases h.pendings t n ((Store.pending_after_of_ne ht).1 hm) with hr | hy
    · exact Or.inl (hr.apply hx hs)
    · rw [SessionState.apply_txns_of_ne _ _ _ _ ht]
      exact Or.inr hy

private theorem InHand_frame {y : SessionTxn} (h : s.InHand y) (hx : s.txns tid = some x)
    (hs : Statement s.ids s.sessions tid x e) : (s.apply tid x e).InHand y := by
  unfold SessionState.InHand at h ⊢
  split at h
  · exact h
  · exact SessionState.Rooted.apply h hx hs
  · exact SessionState.Rooted.apply h hx hs
  · exact SessionState.Reads.apply h hx hs
  · exact SessionState.Reads.apply h hx hs
  · trivial

private theorem own_hand_step (h : SpanInv s) (hrot : RotationInv s) (hx : s.txns tid = some x)
    (hs : Statement s.ids s.sessions tid x e) : (s.apply tid x e).InHand (x.after e) := by
  have hand := h.hands tid x hx
  have hs' := hs
  unfold SessionState.InHand at hand
  cases hs with
  | creates hp hc => exact ⟨_, _, hc, rfl, rfl, rfl, Int.min_le_right _ _⟩
  | gets hp hc =>
    rename_i k
    show (s.apply tid x _).InHand
      { x with phase := .returned (.ofGet (getUserSession s.ids.users s.sessions.rows x.now k)) }
    cases hg : getUserSession s.ids.users s.sessions.rows x.now k with
    | error e => trivial
    | ok d =>
      rw [hg] at hs'
      obtain ⟨r, hr, email, hd, hl⟩ := getUserSession_active hg
      exact ⟨r, email, hd, (h.rows r hr).apply hx hs', hl⟩
  | rotateLocks hp hc hl ho =>
    have hrow := (h.rows _ (Store.mem_rows.2 ⟨_, (hrot.latest_free hx hp hl).1⟩)).apply hx hs'
    exact hrow.map fun y hy => hy.row _ _ _
  | insertsNext hp =>
    rw [hp] at hand
    exact SessionState.Rooted.apply hand hx hs'
  | commits hp =>
    rename_i reply
    rw [hp] at hand
    cases reply with
    | session d => exact SessionState.Reads.apply hand hx hs'
    | created _ | touched _ | revoked | revokedCount _ | failed _ | aborted _ => trivial
  | waits | visitWaits => exact InHand_frame (h.hands tid x hx) hx hs'
  | _ => trivial

private theorem apply (h : SpanInv s) (hrot : RotationInv s) (hx : s.txns tid = some x)
    (hs : Statement s.ids s.sessions tid x e) : SpanInv (s.apply tid x e) where
  rows _ hr := h.rows_step hrot hx hs hr
  drafts _ _ _ hm := h.drafts_step hx hs hm
  pendings _ _ hm := h.pendings_step hx hs hm
  hands := by
    intro t y hy
    by_cases ht : t = tid
    · subst ht
      rw [SessionState.apply_txns_self] at hy
      cases hy
      exact h.own_hand_step hrot hx hs
    · rw [SessionState.apply_txns_of_ne _ _ _ _ ht] at hy
      exact InHand_frame (h.hands t y hy) hx hs

private theorem init (ids : IdentityTables) (clock : Int) : SpanInv (.init ids clock) where
  rows _ hr := (List.not_mem_nil hr).elim
  drafts _ _ _ hm := (List.not_mem_nil hm).elim
  pendings _ _ hm := (List.not_mem_nil hm).elim
  hands _ _ hx := by cases hx

/-- A new transaction. -/
private theorem begin (h : SpanInv s) (hn : s.txns tid = none) (call : SessionCall) :
    SpanInv (s.put tid ⟨s.clock, call, .start, none, []⟩) := by
  -- the other transactions stay
  have hput : ∀ {t y}, s.txns t = some y → (s.put tid ⟨s.clock, call, .start, none, []⟩).txns t = some y := by
    intro t y hy
    have ht : t ≠ tid := by
      rintro rfl
      rw [hn] at hy
      cases hy
    rw [SessionState.put_txns_of_ne _ _ _ ht]
    exact hy
  have hroot : ∀ {r}, s.Rooted r → (s.put tid ⟨s.clock, call, .start, none, []⟩).Rooted r := fun hr =>
    let ⟨t, y, hy, hp, ho⟩ := hr
    ⟨t, y, hput hy, hp, ho⟩
  have hreads : ∀ {now d}, s.Reads now d → (s.put tid ⟨s.clock, call, .start, none, []⟩).Reads now d := fun hr =>
    let ⟨r, email, hd, hr, hl⟩ := hr
    ⟨r, email, hd, hroot hr, hl⟩
  refine ⟨fun r hr => hroot (h.rows r hr), fun r t d hm => hroot (h.drafts r t d hm), fun t n hm => ?_,
    fun t y hy => ?_⟩
  · exact (h.pendings t n hm).imp hroot fun ⟨y, hy, ho⟩ => ⟨y, hput hy, ho⟩
  · by_cases ht : t = tid
    · subst ht
      rw [SessionState.put_txns_self] at hy
      cases hy
      trivial
    · rw [SessionState.put_txns_of_ne _ _ _ ht] at hy
      have hand := h.hands t y hy
      unfold SessionState.InHand at hand ⊢
      split at hand
      · exact hand
      · exact hroot hand
      · exact hroot hand
      · exact hreads hand
      · exact hreads hand
      · trivial

private theorem step {s' : SessionState} {a : SessionAction} (h : RotationInv s ∧ SpanInv s)
    (hs : sessionMachine.step s a = some s') : RotationInv s' ∧ SpanInv s' := by
  refine ⟨h.1.step hs, ?_⟩
  rcases sessionMachine_step hs with ⟨d, rfl⟩ | ⟨tid, call, hn, rfl⟩ | ⟨tid, x, e, hx, hst, rfl, -⟩
  · exact ⟨h.2.rows, h.2.drafts, h.2.pendings, h.2.hands⟩
  · exact h.2.begin hn call
  · exact h.2.apply h.1 hx hst

private theorem reachable {ids : IdentityTables} {clock : Int} (hs : sessionMachine.Reachable (.init ids clock) s) :
    SpanInv s :=
  (hs.invariant (P := fun s => RotationInv s ∧ SpanInv s) (fun _ _ _ h hst => step h hst)
    ⟨.init ids clock, .init ids clock⟩).2

end SpanInv

end Step

/-- `x` has made a login with the arguments `a`. -/
def SessionState.Login (s : SessionState) (x : SessionTxn) (a : CreateArgs) : Prop :=
  ∃ t id c, s.txns t = some x ∧ x.call = .create id a ∧ x.phase = .committed (.created c)

private theorem SessionState.Rooted.login {s : SessionState} {r : UserSession} (h : s.Rooted r) :
    ∃ x a, s.Login x a ∧ r.userId = a.userId ∧ r.tenantId = a.tenantId ∧
      r.absoluteExpiresAt = x.now + a.absoluteTtl ∧ r.idleExpiresAt ≤ r.absoluteExpiresAt := by
  obtain ⟨t, x, hx, hp, id, a, hc, hr⟩ := h
  unfold SessionPhase.isCommitted at hp
  split at hp
  · rename_i c hphase
    exact ⟨x, a, ⟨t, id, c, hx, hc, hphase⟩, hr⟩
  · cases hp

/-- In every interleaving of the session transactions, a committed session has the user, the tenant and the absolute
expiry of a committed `create_user_session`, and what a `get_user_session` finds at its `now()` is a session of a
committed login that is not over. -/
theorem login_span {ids : IdentityTables} {clock : Int} {s : SessionState}
    (hs : sessionMachine.Reachable (.init ids clock) s) :
    (∀ r ∈ s.sessions.rows, ∃ x a, s.Login x a ∧ r.userId = a.userId ∧ r.tenantId = a.tenantId ∧
      r.absoluteExpiresAt = x.now + a.absoluteTtl ∧ r.idleExpiresAt ≤ r.absoluteExpiresAt) ∧
    ∀ t y d, s.txns t = some y → (y.phase = .returned (.session d) ∨ y.phase = .committed (.session d)) →
      ∃ x a, s.Login x a ∧ d.userId = a.userId ∧ d.tenantId = a.tenantId ∧ y.now < x.now + a.absoluteTtl := by
  have h := SpanInv.reachable hs
  refine ⟨fun r hr => (h.rows r hr).login, fun t y d hy hp => ?_⟩
  have hand := h.hands t y hy
  have hreads : s.Reads y.now d := by
    unfold SessionState.InHand at hand
    rcases hp with hp | hp <;> rw [hp] at hand <;> exact hand
  obtain ⟨r, email, rfl, hr, hl⟩ := hreads
  obtain ⟨x, a, hlogin, huser, htenant, habs, -⟩ := hr.login
  exact ⟨x, a, hlogin, huser, htenant, habs ▸ hl.2.1⟩

/-- A login, and a rotation of its session that runs while everything is revoked. -/
def rotatedLogin : List SessionAction :=
  [.start 0 (.create 100 (loginArgs 1)), .exec 0, .exec 0, .exec 0, .start 1 (.rotate 101 (rotationArgs 1 2)),
    .start 2 (.revokeAll 1 1), .exec 1, .exec 2, .exec 1, .exec 1, .exec 1, .exec 1, .visit 2 100, .exec 2, .exec 2]

theorem login_span_rotated :
    ∃ s, sessionMachine.run (.init oneMember 0) rotatedLogin = some s ∧ s.sessions.rows.length = 2 ∧
      ∀ r ∈ s.sessions.rows, ∃ x a, s.Login x a ∧ r.userId = a.userId ∧ r.tenantId = a.tenantId ∧
        r.absoluteExpiresAt = x.now + a.absoluteTtl ∧ r.idleExpiresAt ≤ r.absoluteExpiresAt := by
  have hrun : (sessionMachine.run (.init oneMember 0) rotatedLogin).map (·.sessions.rows.length) = some 2 := by decide
  obtain ⟨s, hs, hrows⟩ := Option.map_eq_some_iff.1 hrun
  exact ⟨s, hs, hrows, (login_span ⟨_, hs⟩).1⟩

end CleanBackend
