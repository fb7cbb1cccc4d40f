import CleanBackend.Database.RotationInvariant
import Mathlib.Logic.Relation

/-!
# One rotation of a session wins

Rotations of a session queue up on its row lock.  Over the invariant of the transactions come two facts about
rotations: what a rotation has to do with the session of its old token (`Aims`), and what the transactions it waited
for imply for it (`Waited`).  With them, a session has at most one successor, a login chain at most one session that
is not revoked, and every rotation but the winner fails.
-/

namespace CleanBackend

/-- The errors of a rotation. -/
def DbError.OfSession (e : DbError) : Prop :=
  e.code = .sessionNotFound ∨ e.code = .sessionRevoked ∨ e.code = .sessionExpired

/-- What a rotation with old token `h` has found, inserted or answered. -/
def Aims (rows : List UserSession) (h : Bytea) (x : SessionTxn) : Prop :=
  match x.phase with
  | .start | .rolledBack _ => True
  | .locking k => ∃ o ∈ rows, o.id = k ∧ o.tokenHash = h
  | .inserting _ (some old) | .revokingOld old _ => old.tokenHash = h
  | .inserting _ none | .visiting _ _ => False
  | .returned reply | .committed reply =>
    (∃ c, reply = .created c) ∧
      (∃ n, x.inserted = some n ∧ ∃ o ∈ rows, n.rotatedFrom = some o.id ∧ o.tokenHash = h) ∨
    (∃ e : DbError, reply = .failed e ∧ e.OfSession)

/-- The rotation can only end with `SESSION_REVOKED`, or be rolled back. -/
def Doomed (rows : List UserSession) (x : SessionTxn) : Prop :=
  match x.phase with
  | .locking k => ∃ r ∈ rows, r.id = k ∧ r.revokedAt.isSome
  | .returned reply | .committed reply => reply = .failed .sessionRevoked
  | .rolledBack _ => True
  | _ => False

/-- What it implies for a rotation `x` that it has met the lock of `w`: when `w` has minted a session, `x` is doomed;
while `w` runs, `x` is still waiting for it, unless it has been rolled back. -/
def Waited (s : SessionState) (x : SessionTxn) (w : Tid) : Prop :=
  ∃ y, s.txns w = some y ∧
    ((∃ c, y.phase = .committed (.created c) ∧ Doomed s.sessions.rows x) ∨
     (y.phase.finished ∧ ∀ c, y.phase ≠ .committed (.created c)) ∨
     (y.phase.finished = false ∧ ((∃ cause, x.phase = .rolledBack cause) ∨
       ∃ r d, x.phase = .locking r.id ∧ .stored r (some (w, d)) ∈ s.sessions)))

/-- The rows a transaction inserts, or is about to, bear the token hash it brings. -/
structure BringsRow (x : SessionTxn) : Prop where
  inserting : ∀ new old, x.phase = .inserting new old → x.call.newTokenHash = some new.tokenHash
  inserted : ∀ n, x.inserted = some n → x.call.newTokenHash = some n.tokenHash

structure RaceInv (s : SessionState) : Prop where
  rotations : RotationInv s
  brings : ∀ t x, s.txns t = some x → BringsRow x
  minted : ∀ r ∈ s.sessions.rows, ∃ t x c n, s.txns t = some x ∧ x.phase = .committed (.created c) ∧
    x.inserted = some n ∧ n.Evolves r
  distinct : ∀ t t' x x' n n', s.txns t = some x → s.txns t' = some x' → x.inserted = some n →
    x'.inserted = some n' → n.id = n'.id → t = t'
  aims : ∀ t x id a, s.txns t = some x → x.call = .rotate id a → Aims s.sessions.rows a.oldTokenHash x
  waits : ∀ t x id a, s.txns t = some x → x.call = .rotate id a → ∀ w ∈ x.waitedFor, Waited s x w

/-- The row a transaction has inserted is in the table. -/
private theorem InFlight.inserted_mem {S : Store Tid UserSession} {t : Tid} {x : SessionTxn} (h : InFlight S t x)
    {n : UserSession} (hn : x.inserted = some n) : ∃ y ∈ S, y.row.id = n.id := by
  unfold InFlight at h
  split at h
  · rw [h.2] at hn; cases hn
  · rw [h.2.2] at hn; cases hn
  · rw [h.2.2.2] at hn; cases hn; exact ⟨_, h.2.2.1, rfl⟩
  · obtain ⟨n', hi, hm, -⟩ := h
    rw [hi] at hn; cases hn; exact ⟨_, hm, rfl⟩
  · obtain ⟨n', hi, r, hr, he⟩ := h
    obtain ⟨lock, hm⟩ := Store.mem_rows.1 hr
    rw [hi] at hn; cases hn; exact ⟨_, hm, he.id⟩
  · rw [h] at hn; cases hn

section Step

variable {s : SessionState} {tid : Tid} {x : SessionTxn} {e : SessionEffect}

private theorem UserSession.check_error {r : UserSession} {now : Int} {e : DbError} (h : r.check now = .error e) :
    e.OfSession ∧ (r.revokedAt.isSome → e = .sessionRevoked) := by
  rcases r.check_cases now with ⟨-, hc⟩ | ⟨-, hc⟩ | ⟨hr, -, hc⟩ <;> rw [hc] at h <;> cases h
  · exact ⟨Or.inr (Or.inl rfl), fun _ => rfl⟩
  · exact ⟨Or.inr (Or.inr rfl), fun h => by rw [hr] at h; cases h⟩

/-- A statement inserts a new row, keeps what was inserted, or undoes it. -/
private theorem Statement.inserted_cases {ids : IdentityTables} {S : Store Tid UserSession}
    (hs : Statement ids S tid x e) {n : UserSession} (hn : (x.after e).inserted = some n) :
    x.inserted = some n ∨ ∀ y ∈ S, y.row.id ≠ n.id := by
  cases e with
  | goto _ | wait _ | write _ _ _ | commit _ => exact Or.inl hn
  | insert new _ => cases hn; exact Or.inr hs.insert_fresh.1
  | rollback _ => cases hn

private theorem RaceInv.distinct_step (h : RaceInv s) (hx : s.txns tid = some x)
    (hs : Statement s.ids s.sessions tid x e) {t : Tid} {y : SessionTxn} {n n' : UserSession}
    (hn : (x.after e).inserted = some n) (hy : s.txns t = some y) (hn' : y.inserted = some n') (he : n.id = n'.id) :
    tid = t := by
  rcases hs.inserted_cases hn with hn | hnew
  · exact h.distinct tid t x y n n' hx hy hn hn' he
  · obtain ⟨z, hz, hk⟩ := (h.rotations.flights t y hy).inserted_mem hn'
    exact absurd (hk.trans he.symm) (hnew z hz)

/-- The aim of a rotation stays when rows evolve. -/
private theorem Aims.frame {rows rows' : List UserSession} {k : Bytea} {x : SessionTxn} (h : Aims rows k x)
    (hrows : ∀ r ∈ rows, ∃ r' ∈ rows', r.Evolves r') : Aims rows' k x := by
  unfold Aims at h ⊢
  split at h
  · trivial
  · trivial
  · obtain ⟨o, ho, hid, hth⟩ := h
    obtain ⟨o', ho', he⟩ := hrows o ho
    exact ⟨o', ho', he.id.trans hid, he.tokenHash.trans hth⟩
  · exact h
  · exact h
  · exact h
  · exact h
  all_goals
    refine h.imp_left fun ⟨hc, n, hn, o, ho, hid, hth⟩ => ⟨hc, n, hn, ?_⟩
    obtain ⟨o', ho', he⟩ := hrows o ho
    exact ⟨o', ho', by rw [he.id]; exact hid, he.tokenHash.trans hth⟩

private theorem BringsRow.step {ids : IdentityTables} {S : Store Tid UserSession} (h : BringsRow x)
    (hs : Statement ids S tid x e) : BringsRow (x.after e) := by
  cases hs with
  | creates _ hc =>
    refine ⟨fun new old hp => ?_, h.inserted⟩
    cases hp
    simp only [SessionTxn.after, hc, SessionCall.newTokenHash, CreateArgs.row]
  | rotateLocks _ hc =>
    refine ⟨fun new old hp => ?_, h.inserted⟩
    cases hp
    simp only [SessionTxn.after, hc, SessionCall.newTokenHash, RotateArgs.row]
  | insertsFirst hp | insertsNext hp =>
    refine ⟨fun _ _ hp' => (by cases hp'), fun n hn => ?_⟩
    cases hn
    exact h.inserting _ _ hp
  | waits | visitWaits => exact ⟨h.inserting, h.inserted⟩
  | insertFails | aborts => exact ⟨fun _ _ hp' => (by cases hp'), fun _ hn => (by cases hn)⟩
  | _ => exact ⟨fun _ _ hp' => (by cases hp'), h.inserted⟩

/-- A committed row after the step was inserted by a transaction that minted it. -/
private theorem RaceInv.minted_step (h : RaceInv s) (hx : s.txns tid = some x)
    (hs : Statement s.ids s.sessions tid x e) {r : UserSession} (hr : r ∈ (s.sessions.after tid e).rows) :
    ∃ t y c n, (s.apply tid x e).txns t = some y ∧ y.phase = .committed (.created c) ∧ y.inserted = some n ∧
      n.Evolves r := by
  have hkeep : ∀ r₀ ∈ s.sessions.rows, ∃ t y c n, (s.apply tid x e).txns t = some y ∧
      y.phase = .committed (.created c) ∧ y.inserted = some n ∧ n.Evolves r₀ := by
    intro r₀ hr₀
    obtain ⟨t, y, c, n, hy, hp, hn, he⟩ := h.minted r₀ hr₀
    have ht : t ≠ tid := by
      rintro rfl
      rw [hx] at hy
      cases hy
      have hu := hs.unfinished
      rw [hp] at hu
      cases hu
    exact ⟨t, y, c, n, by rw [SessionState.apply_txns_of_ne _ _ _ _ ht]; exact hy, hp, hn, he⟩
  rcases hs.after_cases with ⟨reply, rfl, hp⟩ | ⟨cause, rfl⟩ | ⟨-, hc, -⟩
  · rcases h.rotations.rows_commit hr with ⟨r₀, hr₀, he⟩ | hm
    · obtain ⟨t, y, c, n, hy, hp, hn, he'⟩ := hkeep r₀ hr₀
      exact ⟨t, y, c, n, hy, hp, hn, he'.trans he⟩
    · obtain ⟨hi, hpend⟩ := h.rotations.pending_of hx hm
      rw [hp] at hpend
      cases reply with
      | created c => exact ⟨tid, _, c, r, s.apply_txns_self tid x _, rfl, hi, .refl r⟩
      | session _ | touched _ | revoked | revokedCount _ | failed _ | aborted _ => exact hpend.elim
  · rw [Store.rows_after fun _ he => by cases he] at hr
    exact hkeep r hr
  · rw [Store.rows_after hc] at hr
    exact hkeep r hr

private theorem Doomed.frame {rows rows' : List UserSession} {x : SessionTxn} (h : Doomed rows x)
    (hrows : ∀ r ∈ rows, ∃ r' ∈ rows', r.Evolves r') : Doomed rows' x := by
  unfold Doomed at h ⊢
  split at h
  · obtain ⟨r, hr, hid, hrev⟩ := h
    obtain ⟨r', hr', he⟩ := hrows r hr
    exact ⟨r', hr', he.id.trans hid, he.revoked hrev⟩
  · exact h
  · exact h
  · trivial
  · exact h.elim

variable {id : Uuid} {a : RotateArgs}

/-- A rotation that gets its row gets the committed one. -/
private theorem latest_eq (h : RotationInv s) (hx : s.txns tid = some x) {k : Uuid} (hp : x.phase = .locking k)
    {row r : UserSession} (hl : s.sessions.Latest tid k row) (hr : r ∈ s.sessions.rows)
    (hid : r.id = k) : row = r := by
  obtain ⟨hrow, hk⟩ := h.latest_free hx hp hl
  exact h.ids.rows_eq (Store.mem_rows.2 ⟨_, hrow⟩) hr (hk.trans hid.symm)

private theorem RaceInv.own_aim_step (h : RaceInv s) (hx : s.txns tid = some x) (hcall : x.call = .rotate id a)
    (hs : Statement s.ids s.sessions tid x e) : Aims s.sessions.rows a.oldTokenHash (x.after e) := by
  have ha := h.aims tid x id a hx hcall
  cases hs with
  | createFails _ hc | creates _ hc | gets _ hc | touchFails _ hc | touchFinds _ hc | revokeMisses _ hc
  | revokeFinds _ hc | scans _ hc | touches _ hc | revokeSkips _ hc | revokes _ hc | visitWaits _ hc | visits _ hc
  | visitSkips _ hc => rw [hcall] at hc; cases hc
  | rotateMisses hp => exact Or.inr ⟨_, rfl, Or.inl rfl⟩
  | rotateFinds hp hc hr =>
    rw [hcall] at hc
    cases hc
    obtain ⟨hm, hth⟩ := findBy_some hr
    exact ⟨_, hm, rfl, hth⟩
  | waits hp =>
    simp only [Aims, SessionTxn.after, hp] at ha ⊢
    exact ha
  | rotateFails hp hc hl he => exact Or.inr ⟨_, rfl, (UserSession.check_error he).1⟩
  | rotateLocks hp hc hl ho =>
    simp only [Aims, hp] at ha
    obtain ⟨o, ho, hid, hth⟩ := ha
    cases latest_eq h.rotations hx hp hl ho hid
    exact hth
  | insertFails | aborts => trivial
  | insertsFirst hp | scanEnds hp =>
    simp only [Aims, hp] at ha
  | insertsNext hp =>
    simp only [Aims, hp] at ha
    exact ha
  | revokesOld hp =>
    simp only [Aims, hp] at ha
    have hf := h.rotations.flights tid x hx
    simp only [InFlight, hp] at hf
    exact Or.inl ⟨⟨_, rfl⟩, _, hf.2.2.2, _, Store.mem_rows.2 ⟨_, hf.1⟩, hf.2.1.rotatedFrom, ha⟩
  | commits hp =>
    simp only [Aims, hp] at ha
    exact ha

private theorem RaceInv.own_doom_step (h : RaceInv s) (hx : s.txns tid = some x) (hcall : x.call = .rotate id a)
    (hs : Statement s.ids s.sessions tid x e) (hd : Doomed s.sessions.rows x) :
    Doomed s.sessions.rows (x.after e) := by
  cases hs with
  | createFails _ hc | creates _ hc | gets _ hc | touchFails _ hc | touchFinds _ hc | revokeMisses _ hc
  | revokeFinds _ hc | scans _ hc | touches _ hc | revokeSkips _ hc | revokes _ hc | visitWaits _ hc | visits _ hc
  | visitSkips _ hc => rw [hcall] at hc; cases hc
  | rotateMisses hp | rotateFinds hp | insertsFirst hp | insertsNext hp | revokesOld hp | scanEnds hp =>
    simp only [Doomed, hp] at hd
  | waits hp =>
    simp only [Doomed, SessionTxn.after, hp] at hd ⊢
    exact hd
  | rotateFails hp hc hl he =>
    simp only [Doomed, hp] at hd
    obtain ⟨r, hr, hid, hrev⟩ := hd
    cases latest_eq h.rotations hx hp hl hr hid
    exact congrArg _ ((UserSession.check_error he).2 hrev)
  | rotateLocks hp hc hl ho =>
    simp only [Doomed, hp] at hd
    obtain ⟨r, hr, hid, hrev⟩ := hd
    cases latest_eq h.rotations hx hp hl hr hid
    rw [ho.1] at hrev
    cases hrev
  | insertFails | aborts => trivial
  | commits hp =>
    simp only [Doomed, hp] at hd
    exact hd

/-- A lock that is met is held by a transaction that runs. -/
private theorem RotationInv.holder_runs (h : RotationInv s) {w : Tid} {r d : UserSession}
    (hm : .stored r (some (w, d)) ∈ s.sessions) : ∃ y, s.txns w = some y ∧ y.phase.finished = false := by
  obtain ⟨-, y, hy, hd⟩ := h.locks r w d hm
  refine ⟨y, hy, ?_⟩
  cases hp : y.phase with
  | committed _ | rolledBack _ => rw [hp] at hd; exact hd.elim
  | _ => rfl

/-- The rotation itself takes a step. -/
private theorem RaceInv.own_wait_step (h : RaceInv s) (hx : s.txns tid = some x) (hcall : x.call = .rotate id a)
    (hs : Statement s.ids s.sessions tid x e) {w : Tid} (hw : Waited s x w) :
      Waited (s.apply tid x e) (x.after e) w := by
  obtain ⟨y, hy, hcases⟩ := hw
  have hne : w ≠ tid := by
    rintro rfl
    rw [hx] at hy
    cases hy
    have hu := hs.unfinished
    rcases hcases with ⟨c, hc, -⟩ | ⟨hf, -⟩ | ⟨-, ⟨cause, hp⟩ | ⟨r, d, hp, hm⟩⟩
    · rw [hc] at hu; cases hu
    · rw [hf] at hu; cases hu
    · rw [hp] at hu; cases hu
    · have hd := (h.rotations.lock_of hx hm).2
      rw [hp] at hd
      exact hd
  refine ⟨y, by rw [SessionState.apply_txns_of_ne _ _ _ _ hne]; exact hy, ?_⟩
  rcases hcases with ⟨c, hc, hd⟩ | hf | ⟨hy', ⟨cause, hp⟩ | ⟨r, d, hp, hm⟩⟩
  · exact Or.inl ⟨c, hc, (h.own_doom_step hx hcall hs hd).frame fun r hr => h.rotations.rows_evolve tid e hr⟩
  · exact Or.inr (Or.inl hf)
  · have hu := hs.unfinished
    rw [hp] at hu
    cases hu
  · refine Or.inr (Or.inr ⟨hy', ?_⟩)
    -- the row is held by `w`, so `tid` cannot get it
    have hheld : ∀ {row}, ¬ s.sessions.Latest tid r.id row := by
      intro row hl
      obtain ⟨hrow, hk⟩ := h.rotations.latest_free hx hp hl
      cases h.rotations.ids.eq_of_key hrow hm hk
    cases hs with
    | createFails hp' | creates hp' | gets hp' | touchFails hp' | touchFinds hp' | rotateMisses hp' | rotateFinds hp'
    | revokeMisses hp' | revokeFinds hp' | scans hp' | insertFails hp' | insertsFirst hp' | insertsNext hp'
    | revokesOld hp' | visitWaits hp' | visits hp' | visitSkips hp' | scanEnds hp' | commits hp' =>
      rw [hp] at hp'
      cases hp'
    | waits => exact Or.inr ⟨r, d, hp, hm⟩
    | touches hp' hc hl | rotateFails hp' hc hl | rotateLocks hp' hc hl | revokes hp' hc hl =>
      rw [hp] at hp'
      cases hp'
      exact (hheld hl).elim
    | revokeSkips hp' hc => rw [hcall] at hc; cases hc
    | aborts => exact Or.inl ⟨_, rfl⟩

/-- The transaction that the rotation `z` waited for takes a step. -/
private theorem RaceInv.holder_wait_step (h : RaceInv s) (hx : s.txns tid = some x)
    (hs : Statement s.ids s.sessions tid x e) {z : SessionTxn} (hw : Waited s z tid) :
    Waited (s.apply tid x e) z tid := by
  obtain ⟨y, hy, hcases⟩ := hw
  rw [hx] at hy
  cases hy
  refine ⟨_, s.apply_txns_self tid x e, ?_⟩
  have hu := hs.unfinished
  rcases hcases with ⟨c, hc, -⟩ | ⟨hf, -⟩ | ⟨-, hz⟩
  · rw [hc] at hu; cases hu
  · rw [hf] at hu; cases hu
  · rcases hs.after_cases with ⟨reply, rfl, hp⟩ | ⟨cause, rfl⟩ | ⟨hf, hc, hr⟩
    · by_cases hcr : ∃ c, reply = .created c
      · obtain ⟨c, rfl⟩ := hcr
        refine Or.inl ⟨c, rfl, ?_⟩
        rcases hz with ⟨cause, hz⟩ | ⟨r, d, hz, hm⟩
        · simp only [Doomed, hz]
        · obtain ⟨he, hd⟩ := h.rotations.lock_of hx hm
          rw [hp] at hd
          simp only [Doomed, hz]
          exact ⟨d, Store.draft_mem_rows_commit hm, he.id, hd.2⟩
      · exact Or.inr (Or.inl ⟨rfl, fun c hc => hcr ⟨c, SessionPhase.committed.inj hc⟩⟩)
    · exact Or.inr (Or.inl ⟨rfl, nofun⟩)
    · refine Or.inr (Or.inr ⟨hf, hz.imp_right fun ⟨r, d, hz, hm⟩ => ?_⟩)
      obtain ⟨d', hm'⟩ := Store.locked_after_self hc hr hm
      exact ⟨r, d', hz, hm'⟩

/-- Another transaction takes a step. -/
private theorem RaceInv.other_wait_step (h : RaceInv s) (e : SessionEffect) {z : SessionTxn} {w : Tid} (hne : w ≠ tid)
    (hw : Waited s z w) : Waited (s.apply tid x e) z w := by
  obtain ⟨y, hy, hcases⟩ := hw
  refine ⟨y, by rw [SessionState.apply_txns_of_ne _ _ _ _ hne]; exact hy, ?_⟩
  rcases hcases with ⟨c, hc, hd⟩ | hf | ⟨hy', hz⟩
  · exact Or.inl ⟨c, hc, hd.frame fun r hr => h.rotations.rows_evolve tid e hr⟩
  · exact Or.inr (Or.inl hf)
  · exact Or.inr (Or.inr ⟨hy', hz.imp_right fun ⟨r, d, hz, hm⟩ => ⟨r, d, hz, (Store.locked_after_of_ne hne).2 hm⟩⟩)

/-- A rotation that meets a lock. -/
private theorem RaceInv.new_wait (h : RaceInv s) {k : Uuid} {owner : Tid} (hp : x.phase = .locking k)
    (ha : s.sessions.access UserSession.id tid k = .heldBy owner) : Waited s x owner := by
  obtain ⟨-, r, d, hm, rfl⟩ := Store.access_heldBy ha
  obtain ⟨y, hy, hu⟩ := h.rotations.holder_runs hm
  exact ⟨y, hy, Or.inr (Or.inr ⟨hu, Or.inr ⟨r, d, hp, hm⟩⟩)⟩

private theorem Statement.waitedFor_cases {ids : IdentityTables} {S : Store Tid UserSession}
    (hs : Statement ids S tid x e) (hcall : x.call = .rotate id a) {w : Tid} (hw : w ∈ (x.after e).waitedFor) :
    w ∈ x.waitedFor ∨ ∃ k, x.phase = .locking k ∧ S.access UserSession.id tid k = .heldBy w := by
  cases hs with
  | waits hp ha =>
    rcases List.mem_cons.1 hw with rfl | hw
    · exact Or.inr ⟨_, hp, ha⟩
    · exact Or.inl hw
  | visitWaits _ hc => rw [hcall] at hc; cases hc
  | _ => exact Or.inl hw

/-- Every statement keeps the invariant of the race. -/
private theorem RaceInv.apply (h : RaceInv s) (hx : s.txns tid = some x) (hs : Statement s.ids s.sessions tid x e) :
    RaceInv (s.apply tid x e) where
  rotations := h.rotations.apply hx hs
  brings := by
    intro t y hy
    by_cases ht : t = tid
    · subst ht
      rw [SessionState.apply_txns_self] at hy
      cases hy
      exact (h.brings t x hx).step hs
    · rw [SessionState.apply_txns_of_ne _ _ _ _ ht] at hy
      exact h.brings t y hy
  minted _ hr := h.minted_step hx hs hr
  distinct := by
    intro t t' y y' n n' hy hy' hn hn' he
    -- whichever of the two took the step
    by_cases ht : t = tid <;> by_cases ht' : t' = tid
    · rw [ht, ht']
    · subst ht
      rw [SessionState.apply_txns_self] at hy
      rw [SessionState.apply_txns_of_ne _ _ _ _ ht'] at hy'
      cases hy
      exact h.distinct_step hx hs hn hy' hn' he
    · subst ht'
      rw [SessionState.apply_txns_self] at hy'
      rw [SessionState.apply_txns_of_ne _ _ _ _ ht] at hy
      cases hy'
      exact (h.distinct_step hx hs hn' hy hn he.symm).symm
    · rw [SessionState.apply_txns_of_ne _ _ _ _ ht] at hy
      rw [SessionState.apply_txns_of_ne _ _ _ _ ht'] at hy'
      exact h.distinct t t' y y' n n' hy hy' hn hn' he
  aims := by
    intro t y id a hy hcall
    by_cases ht : t = tid
    · subst ht
      rw [SessionState.apply_txns_self] at hy
      cases hy
      rw [SessionTxn.after_call] at hcall
      exact (h.own_aim_step hx hcall hs).frame fun r hr => h.rotations.rows_evolve t e hr
    · rw [SessionState.apply_txns_of_ne _ _ _ _ ht] at hy
      exact (h.aims t y id a hy hcall).frame fun r hr => h.rotations.rows_evolve tid e hr
  waits := by
    intro t y id a hy hcall w hw
    by_cases ht : t = tid
    · subst ht
      rw [SessionState.apply_txns_self] at hy
      cases hy
      rw [SessionTxn.after_call] at hcall
      refine h.own_wait_step hx hcall hs ?_
      -- it waited before, or begins to
      rcases hs.waitedFor_cases hcall hw with hw | ⟨k, hp, ha⟩
      · exact h.waits t x id a hx hcall w hw
      · exact h.new_wait hp ha
    · rw [SessionState.apply_txns_of_ne _ _ _ _ ht] at hy
      have hw := h.waits t y id a hy hcall w hw
      by_cases hwt : w = tid
      · subst hwt; exact h.holder_wait_step hx hs hw
      · exact h.other_wait_step e hwt hw

private theorem RaceInv.init (ids : IdentityTables) (clock : Int) : RaceInv (.init ids clock) where
  rotations := .init ids clock
  brings _ _ hx := by cases hx
  minted _ hr := (List.not_mem_nil hr).elim
  distinct _ _ _ _ _ _ hx := by cases hx
  aims _ _ _ _ hx := by cases hx
  waits _ _ _ _ hx := by cases hx

private theorem RaceInv.begin (h : RaceInv s) (hn : s.txns tid = none) (call : SessionCall) :
    RaceInv (s.put tid ⟨s.clock, call, .start, none, []⟩) where
  rotations := h.rotations.begin hn call
  brings := by
    intro t y hy
    by_cases ht : t = tid
    · subst ht
      rw [SessionState.put_txns_self] at hy
      cases hy
      exact ⟨fun _ _ hp => (nomatch hp), fun _ hn => (nomatch hn)⟩
    · rw [SessionState.put_txns_of_ne _ _ _ ht] at hy
      exact h.brings t y hy
  minted := by
    intro r hr
    obtain ⟨t, y, c, n, hy, hrest⟩ := h.minted r hr
    have ht : t ≠ tid := by rintro rfl; rw [hn] at hy; cases hy
    exact ⟨t, y, c, n, by rw [SessionState.put_txns_of_ne _ _ _ ht]; exact hy, hrest⟩
  distinct := by
    intro t t' y y' n n' hy hy' hin hin' he
    have hne : ∀ {u z m}, (s.put tid ⟨s.clock, call, .start, none, []⟩).txns u = some z → z.inserted = some m →
        s.txns u = some z := by
      intro u z m hz hm
      by_cases hu : u = tid
      · subst hu
        rw [SessionState.put_txns_self] at hz
        cases hz
        cases hm
      · rwa [SessionState.put_txns_of_ne _ _ _ hu] at hz
    exact h.distinct t t' y y' n n' (hne hy hin) (hne hy' hin') hin hin' he
  aims := by
    intro t y id a hy hcall
    by_cases ht : t = tid
    · subst ht
      rw [SessionState.put_txns_self] at hy
      cases hy
      trivial
    · rw [SessionState.put_txns_of_ne _ _ _ ht] at hy
      exact h.aims t y id a hy hcall
  waits := by
    intro t y id a hy hcall w hw
    by_cases ht : t = tid
    · subst ht
      rw [SessionState.put_txns_self] at hy
      cases hy
      cases hw
    · rw [SessionState.put_txns_of_ne _ _ _ ht] at hy
      obtain ⟨z, hz, hcases⟩ := h.waits t y id a hy hcall w hw
      have hwt : w ≠ tid := by rintro rfl; rw [hn] at hz; cases hz
      exact ⟨z, by rw [SessionState.put_txns_of_ne _ _ _ hwt]; exact hz, hcases⟩

private theorem RaceInv.reachable {ids : IdentityTables} {clock : Int}
    (hs : sessionMachine.Reachable (.init ids clock) s) : RaceInv s := by
  refine hs.invariant (fun s a s' h hst => ?_) (.init ids clock)
  rcases sessionMachine_step hst with ⟨d, rfl⟩ | ⟨tid, call, hn, rfl⟩ | ⟨tid, x, e, hx, hs, rfl, -⟩
  · exact ⟨h.rotations.step hst, h.brings, h.minted, h.distinct, h.aims, h.waits⟩
  · exact h.begin hn call
  · exact h.apply hx hs

end Step

/-! ### The committed sessions and the completed rotations -/

/-- `r'` was minted by a rotation of `r`. -/
def RotatedTo (rows : List UserSession) (r r' : UserSession) : Prop :=
  r ∈ rows ∧ r' ∈ rows ∧ r'.rotatedFrom = some r.id

/-- The sessions minted by rotations that started from `r`. -/
def LoginChain (rows : List UserSession) : UserSession → UserSession → Prop := Relation.ReflTransGen (RotatedTo rows)

/-- The rotation `t` of the old token `h` is complete and has minted a session. -/
def WonRotation (s : SessionState) (h : Bytea) (t : Tid) : Prop :=
  ∃ x id a c, s.txns t = some x ∧ x.call = .rotate id a ∧ a.oldTokenHash = h ∧ x.phase = .committed (.created c)

section Results

variable {s : SessionState}

/-- In a chain without branches whose inner sessions are revoked, one session is not. -/
private theorem RotationInv.one_unrevoked (h : RotationInv s) {root r r' : UserSession}
    (hr : LoginChain s.sessions.rows root r) (hr' : LoginChain s.sessions.rows root r') (hu : r.revokedAt = none)
    (hu' : r'.revokedAt = none) : r = r' := by
  have hright : Relator.RightUnique (RotatedTo s.sessions.rows) := fun a b c hb hc =>
    h.successors b hb.2.1 c hc.2.1 a.id hb.2.2 hc.2.2
  -- a session that is not revoked has no successor
  have hlast : ∀ {a b}, LoginChain s.sessions.rows a b → a.revokedAt = none → a = b := by
    intro a b hab ha
    rcases Relation.ReflTransGen.cases_head hab with heq | ⟨c, ⟨hma, hmc, hc⟩, -⟩
    · exact heq
    · obtain ⟨o, ho, hid, -, hrev⟩ := h.parents c hmc a.id hc
      cases h.ids.rows_eq ho hma hid
      rw [ha] at hrev
      cases hrev
  rcases Relation.ReflTransGen.total_of_right_unique hright hr hr' with hrr | hrr
  · exact hlast hrr hu
  · exact (hlast hrr hu').symm

/-- Two completed rotations of one token that minted a session are the same. -/
private theorem RaceInv.winner_unique (h : RaceInv s) {k : Bytea} {t t' : Tid} (ht : WonRotation s k t)
    (ht' : WonRotation s k t') : t = t' := by
  have hmint : ∀ {t}, WonRotation s k t → ∃ x n, s.txns t = some x ∧ x.inserted = some n ∧
      ∃ r ∈ s.sessions.rows, r.id = n.id ∧ ∃ o ∈ s.sessions.rows, r.rotatedFrom = some o.id ∧ o.tokenHash = k := by
    rintro t ⟨x, id, a, c, hx, hcall, rfl, hp⟩
    have hf := h.rotations.flights t x hx
    simp only [InFlight, hp] at hf
    obtain ⟨n, hn, r, hr, he⟩ := hf
    have ha := h.aims t x id a hx hcall
    simp only [Aims, hp] at ha
    rcases ha with ⟨-, n', hn', o, ho, hid, hth⟩ | ⟨e, he', -⟩
    · rw [hn] at hn'
      cases hn'
      exact ⟨x, n, hx, hn, r, hr, he.id, o, ho, he.rotatedFrom.trans hid, hth⟩
    · cases he'
  obtain ⟨x, n, hx, hn, r, hr, hid, o, ho, hfrom, hth⟩ := hmint ht
  obtain ⟨x', n', hx', hn', r', hr', hid', o', ho', hfrom', hth'⟩ := hmint ht'
  have hoo : o = o' := h.rotations.hashes.rows_eq ho ho' (hth.trans hth'.symm)
  subst hoo
  have hrr := h.rotations.successors r hr r' hr' o.id hfrom hfrom'
  subst hrr
  exact h.distinct t t' x x' n n' hx hx' hn hn' (hid.symm.trans hid')

/-- A completed rotation minted a session, or failed and inserted nothing. -/
private theorem RaceInv.completed_rotation (h : RaceInv s) {t : Tid} {x : SessionTxn} {id : Uuid} {a : RotateArgs}
    {reply : SessionReply} (hx : s.txns t = some x) (hcall : x.call = .rotate id a)
    (hp : x.phase = .committed reply) :
    WonRotation s a.oldTokenHash t ∨
    ∃ e : DbError, reply = .failed e ∧ e.OfSession ∧ x.inserted = none := by
  have ha := h.aims t x id a hx hcall
  have hf := h.rotations.flights t x hx
  simp only [Aims, hp] at ha
  rcases ha with ⟨⟨c, rfl⟩, -⟩ | ⟨e, rfl, he⟩
  · exact Or.inl ⟨x, id, a, c, hx, hcall, rfl, hp⟩
  · simp only [InFlight, hp] at hf
    exact Or.inr ⟨e, rfl, he, hf⟩

/-- A completed rotation that waited for a transaction that minted a session failed with `SESSION_REVOKED`. -/
private theorem RaceInv.waited_revoked (h : RaceInv s) {t w : Tid} {x : SessionTxn} {id : Uuid} {a : RotateArgs}
    {reply : SessionReply} {k : Bytea} (hx : s.txns t = some x) (hcall : x.call = .rotate id a)
    (hp : x.phase = .committed reply) (hw : w ∈ x.waitedFor) (hwon : WonRotation s k w) :
    reply = .failed .sessionRevoked := by
  obtain ⟨z, -, -, c, hz, -, -, hzp⟩ := hwon
  obtain ⟨y, hy, hcases⟩ := h.waits t x id a hx hcall w hw
  rw [hz] at hy
  cases hy
  rcases hcases with ⟨-, -, hd⟩ | ⟨-, hn⟩ | ⟨hu, -⟩
  · simpa only [Doomed, hp] using hd
  · exact absurd hzp (hn c)
  · rw [hzp] at hu; cases hu

/-- The token of a rotation that minted nothing is not in the table, if no other call brought it. -/
private theorem RaceInv.token_absent (h : RaceInv s) {t : Tid} {x : SessionTxn} {a : RotateArgs}
    (hx : s.txns t = some x) (hi : x.inserted = none)
    (hfresh : ∀ t' y, t' ≠ t → s.txns t' = some y → y.call.newTokenHash ≠ some a.newTokenHash) :
    ∀ r ∈ s.sessions.rows, r.tokenHash ≠ a.newTokenHash := by
  intro r hr he
  obtain ⟨t', y, c, n, hy, -, hn, hev⟩ := h.minted r hr
  have ht : t' ≠ t := by
    rintro rfl
    rw [hx] at hy
    cases hy
    rw [hi] at hn
    cases hn
  refine hfresh t' y ht hy ?_
  rw [(h.brings t' y hy).inserted n hn, ← hev.tokenHash, he]

end Results

/-- What holds of the committed sessions and of the completed rotations. -/
structure RotationsExclusive (s : SessionState) : Prop where
  one_successor : ∀ r ∈ s.sessions.rows, ∀ r' ∈ s.sessions.rows, ∀ p,
    r.rotatedFrom = some p → r'.rotatedFrom = some p → r = r'
  one_unrevoked : ∀ root r r', LoginChain s.sessions.rows root r → LoginChain s.sessions.rows root r' →
    r.revokedAt = none → r'.revokedAt = none → r = r'
  one_winner : ∀ h t t', WonRotation s h t → WonRotation s h t' → t = t'
  /-- A completed rotation that did not win failed, with `SESSION_REVOKED` if it waited for the winner. -/
  losers_fail : ∀ t x id a reply, s.txns t = some x → x.call = .rotate id a → x.phase = .committed reply →
    ¬ WonRotation s a.oldTokenHash t →
    ∃ e : DbError, reply = .failed e ∧ e.OfSession ∧
      ∀ w ∈ x.waitedFor, WonRotation s a.oldTokenHash w → e.code = .sessionRevoked
  /-- It inserted no row: none bears the token it brought, if no other call brought that token. -/
  losers_insert_nothing : ∀ t x id a reply, s.txns t = some x → x.call = .rotate id a →
    x.phase = .committed reply → ¬ WonRotation s a.oldTokenHash t →
    x.inserted = none ∧
    ((∀ t' y, t' ≠ t → s.txns t' = some y → y.call.newTokenHash ≠ some a.newTokenHash) →
      ∀ r ∈ s.sessions.rows, r.tokenHash ≠ a.newTokenHash)

/-- In every state that any number of session transactions reach, in any order of their statements. -/
theorem rotation_exclusive {ids : IdentityTables} {clock : Int} {s : SessionState}
    (hs : sessionMachine.Reachable (.init ids clock) s) : RotationsExclusive s where
  one_successor := (RaceInv.reachable hs).rotations.successors
  one_unrevoked _ _ _ hr hr' hu hu' := (RaceInv.reachable hs).rotations.one_unrevoked hr hr' hu hu'
  one_winner _ _ _ ht ht' := (RaceInv.reachable hs).winner_unique ht ht'
  losers_fail := by
    intro t x id a reply hx hcall hp hlost
    have h := RaceInv.reachable hs
    rcases h.completed_rotation hx hcall hp with hwon | ⟨e, rfl, he, -⟩
    · exact absurd hwon hlost
    · refine ⟨e, rfl, he, fun w hw hwon => ?_⟩
      cases h.waited_revoked hx hcall hp hw hwon
      rfl
  losers_insert_nothing := by
    intro t x id a reply hx hcall hp hlost
    have h := RaceInv.reachable hs
    rcases h.completed_rotation hx hcall hp with hwon | ⟨-, -, -, hi⟩
    · exact absurd hwon hlost
    · exact ⟨hi, h.token_absent hx hi⟩

/-- A login, then two rotations of its token: the second waits for the lock of the first. -/
def rotationRace : List SessionAction :=
  [.start 0 (.create 100 (loginArgs 1)), .exec 0, .exec 0, .exec 0,
    .start 1 (.rotate 101 (rotationArgs 1 2)), .start 2 (.rotate 102 (rotationArgs 1 3)), .exec 1, .exec 2,
      .exec 1, .exec 2,
    .exec 1, .exec 1, .exec 1, .exec 2, .exec 2]

theorem rotation_exclusive_race :
    ∃ s, sessionMachine.run (.init oneMember 0) rotationRace = some s ∧ RotationsExclusive s ∧
      (s.txns 2).map (fun x => (x.phase, x.waitedFor)) = some (.committed (.failed .sessionRevoked), [1]) := by
  have hrun : ((sessionMachine.run (.init oneMember 0) rotationRace).bind fun s =>
      (s.txns 2).map fun x => (x.phase, x.waitedFor)) = some (.committed (.failed .sessionRevoked), [1]) := by
    decide
  obtain ⟨s, hs, hloser⟩ := Option.bind_eq_some_iff.1 hrun
  exact ⟨s, hs, rotation_exclusive ⟨rotationRace, hs⟩, hloser⟩

end CleanBackend
