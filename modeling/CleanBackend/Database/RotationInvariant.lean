import CleanBackend.Database.SessionStatements

/-!
# The invariant of the session transactions

What a transaction in each phase has made of the rows it holds (`SessionPhase.Draft`) and which rows it has in flight
(`InFlight`), for any number of transactions in any order.  The invariant carries two facts about the committed rows:
a session with a successor is revoked, and it has one successor.
-/

namespace CleanBackend

/-! ### Versions of a row -/

/-- `r'` is a later version of `r`: the keys stay, and a revoked row stays revoked. -/
structure UserSession.Evolves (r r' : UserSession) : Prop where
  id : r'.id = r.id
  tokenHash : r'.tokenHash = r.tokenHash
  userId : r'.userId = r.userId
  tenantId : r'.tenantId = r.tenantId
  rotatedFrom : r'.rotatedFrom = r.rotatedFrom
  revoked : r.revokedAt.isSome → r'.revokedAt.isSome

namespace UserSession.Evolves

theorem refl (r : UserSession) : r.Evolves r := ⟨rfl, rfl, rfl, rfl, rfl, fun h => h⟩

theorem trans {r r' r'' : UserSession} (h : r.Evolves r') (h' : r'.Evolves r'') : r.Evolves r'' where
  id := h'.id.trans h.id
  tokenHash := h'.tokenHash.trans h.tokenHash
  userId := h'.userId.trans h.userId
  tenantId := h'.tenantId.trans h.tenantId
  rotatedFrom := h'.rotatedFrom.trans h.rotatedFrom
  revoked hr := h'.revoked (h.revoked hr)

private theorem set (u : SessionUpdate) {r : UserSession} (h : r.revokedAt.isSome → (u.set r).revokedAt.isSome) :
    r.Evolves (u.set r) :=
  ⟨u.id_eq r, u.tokenHash_eq r, u.userId_eq r, u.tenantId_eq r, u.rotatedFrom_eq r, h⟩

end UserSession.Evolves

/-! ### The invariant -/

/-- What a transaction in this phase may have made of a row it holds. -/
def SessionPhase.Draft : SessionPhase → UserSession → UserSession → Prop
  | inserting _ (some old), r, d | revokingOld old _, r, d => r = old ∧ d = old ∧ old.revokedAt = none
  | returned (.created _), r, d => r.revokedAt = none ∧ d.revokedAt.isSome
  | returned (.touched _), r, d => d.revokedAt = r.revokedAt
  | returned (.failed _), r, d => d = r
  | returned .revoked, _, d | visiting _ _, _, d | returned (.revokedCount _), _, d => d.revokedAt.isSome
  | _, _, _ => False

/-- `new` carries on the session `old`. -/
structure UserSession.Succeeds (new old : UserSession) : Prop where
  rotatedFrom : new.rotatedFrom = some old.id
  userId : new.userId = old.userId
  tenantId : new.tenantId = old.tenantId

/-- What a transaction in this phase has in flight. -/
def InFlight (s : Store Tid UserSession) (t : Tid) (x : SessionTxn) : Prop :=
  match x.phase with
  | .inserting new none => new.rotatedFrom = none ∧ x.inserted = none
  | .inserting new (some old) =>
    .stored old (some (t, old)) ∈ s ∧ new.Succeeds old ∧ x.inserted = none
  | .revokingOld old new =>
    .stored old (some (t, old)) ∈ s ∧ new.Succeeds old ∧ .pending t new ∈ s ∧ x.inserted = some new
  | .returned (.created _) =>
    ∃ new, x.inserted = some new ∧ .pending t new ∈ s ∧
      ∀ p, new.rotatedFrom = some p → ∃ r d, .stored r (some (t, d)) ∈ s ∧ r.id = p ∧ new.Succeeds r
  | .committed (.created _) => ∃ new, x.inserted = some new ∧ ∃ r ∈ s.rows, new.Evolves r
  | _ => x.inserted = none

/-- The phases in which a transaction has a pending row. -/
def SessionPhase.Pending (n : UserSession) : SessionPhase → Prop
  | revokingOld _ new => new = n
  | returned (.created _) => True
  | _ => False

structure RotationInv (s : SessionState) : Prop where
  ids : Store.WellKeyed UserSession.id s.sessions
  hashes : Store.WellKeyed UserSession.tokenHash s.sessions
  locks : ∀ r t d, .stored r (some (t, d)) ∈ s.sessions →
    r.Evolves d ∧ ∃ x, s.txns t = some x ∧ x.phase.Draft r d
  pendings : ∀ t n, .pending t n ∈ s.sessions →
    ∃ x, s.txns t = some x ∧ x.inserted = some n ∧ x.phase.Pending n
  flights : ∀ t x, s.txns t = some x → InFlight s.sessions t x
  parents : ∀ r ∈ s.sessions.rows, ∀ p, r.rotatedFrom = some p →
    ∃ o ∈ s.sessions.rows, o.id = p ∧ r.Succeeds o ∧ o.revokedAt.isSome
  successors : ∀ r ∈ s.sessions.rows, ∀ r' ∈ s.sessions.rows, ∀ p, r.rotatedFrom = some p →
    r'.rotatedFrom = some p → r = r'

section Step

variable {s : SessionState} {tid : Tid} {x : SessionTxn} {e : SessionEffect}

namespace RotationInv

theorem lock_of (h : RotationInv s) (hx : s.txns tid = some x) {r d : UserSession}
    (hm : .stored r (some (tid, d)) ∈ s.sessions) : r.Evolves d ∧ x.phase.Draft r d := by
  obtain ⟨he, x', hx', hd⟩ := h.locks r tid d hm
  rw [hx] at hx'
  cases hx'
  exact ⟨he, hd⟩

theorem pending_of (h : RotationInv s) (hx : s.txns tid = some x) {n : UserSession}
    (hm : .pending tid n ∈ s.sessions) : x.inserted = some n ∧ x.phase.Pending n := by
  obtain ⟨x', hx', hi, hp⟩ := h.pendings tid n hm
  rw [hx] at hx'
  cases hx'
  exact ⟨hi, hp⟩

/-- A transaction that has not started to write gets the committed version. -/
theorem latest_free (h : RotationInv s) (hx : s.txns tid = some x) {id : Uuid} {row : UserSession}
    (hp : x.phase = .locking id) (hl : s.sessions.Latest tid id row) :
      .stored row none ∈ s.sessions ∧ row.id = id := by
  rcases hl with ha | ha
  · exact Store.access_free ha
  · rcases Store.access_mine ha with ⟨r, hm, -⟩ | ⟨hm, -⟩
    · have hd := (h.lock_of hx hm).2
      rw [hp] at hd
      exact hd.elim
    · have hd := (h.pending_of hx hm).2
      rw [hp] at hd
      exact hd.elim

/-- What `tid` has made of the rows it holds after its statement. -/
private theorem own_lock_step (h : RotationInv s) (hx : s.txns tid = some x) (hs : Statement s.ids s.sessions tid x e)
    {r d : UserSession} (hm : .stored r (some (tid, d)) ∈ s.sessions.after tid e) :
    r.Evolves d ∧ (x.after e).phase.Draft r d := by
  have hlock : ∀ {r d}, .stored r (some (tid, d)) ∈ s.sessions → r.Evolves d ∧ x.phase.Draft r d := h.lock_of hx
  cases hs with
  | createFails hp | creates hp | gets hp | touchFails hp | touchFinds hp | rotateMisses hp | rotateFinds hp
  | revokeMisses hp | revokeFinds hp | scans hp | revokeSkips hp =>
    -- in these phases it holds no row
    exact absurd (hlock hm).2 (by simp [hp, SessionPhase.Draft])
  | waits | visitWaits => exact hlock hm
  | touches hp =>
    rcases Store.own_mem_write hm with ⟨hm, -⟩ | ⟨-, -, rfl⟩ | ⟨d₀, hm, -⟩
    · exact absurd (hlock hm).2 (by simp [hp, SessionPhase.Draft])
    · exact ⟨.set _ fun hr => hr, rfl⟩
    · exact absurd (hlock hm).2 (by simp [hp, SessionPhase.Draft])
  | rotateFails hp =>
    rcases Store.own_mem_write hm with ⟨hm, -⟩ | ⟨-, -, rfl⟩ | ⟨d₀, hm, -⟩
    · exact absurd (hlock hm).2 (by simp [hp, SessionPhase.Draft])
    · exact ⟨.refl _, rfl⟩
    · exact absurd (hlock hm).2 (by simp [hp, SessionPhase.Draft])
  | revokes hp =>
    rcases Store.own_mem_write hm with ⟨hm, -⟩ | ⟨-, -, rfl⟩ | ⟨d₀, hm, -⟩
    · exact absurd (hlock hm).2 (by simp [hp, SessionPhase.Draft])
    · exact ⟨.set _ fun _ => rfl, rfl⟩
    · exact absurd (hlock hm).2 (by simp [hp, SessionPhase.Draft])
  | rotateLocks hp hc hl ho =>
    rename_i id newId a row
    obtain ⟨hrow, hid⟩ := h.latest_free hx hp hl
    rcases Store.own_mem_write hm with ⟨hm, -⟩ | ⟨hm, hk, rfl⟩ | ⟨d₀, hm, -⟩
    · exact absurd (hlock hm).2 (by simp [hp, SessionPhase.Draft])
    · cases h.ids.eq_of_key hm hrow (hk.trans hid.symm)
      exact ⟨.refl _, rfl, rfl, ho.1⟩
    · exact absurd (hlock hm).2 (by simp [hp, SessionPhase.Draft])
  | insertsFirst hp =>
    rcases Store.mem_insert.1 hm with hm | hm
    · exact absurd (hlock hm).2 (by simp [hp, SessionPhase.Draft])
    · cases hm
  | insertsNext hp =>
    rcases Store.mem_insert.1 hm with hm | hm
    · have hd := hlock hm
      rw [hp] at hd
      exact hd
    · cases hm
  | revokesOld hp =>
    rename_i old new
    have hf := h.flights tid x hx
    simp only [InFlight, hp] at hf
    -- the row it writes is the old session, which it holds since the `FOR UPDATE`
    rcases Store.own_mem_write hm with ⟨hm, hk⟩ | ⟨hm, hk, -⟩ | ⟨d₀, hm', hk, rfl⟩
    · have hd := (hlock hm).2
      rw [hp] at hd
      exact absurd (congrArg UserSession.id hd.1) hk
    · cases h.ids.eq_of_key hm hf.1 hk
    · obtain ⟨he, hd⟩ := hlock hm'
      rw [hp] at hd
      obtain ⟨rfl, rfl, hu⟩ := hd
      exact ⟨.set _ fun _ => rfl, hu, rfl⟩
  | visits hp =>
    -- a row visited before, the row of this visit, or one it has revoked already
    rcases Store.own_mem_write hm with ⟨hm, -⟩ | ⟨-, -, rfl⟩ | ⟨d₀, hm', -, rfl⟩
    · have hd := hlock hm
      rw [hp] at hd
      exact hd
    · exact ⟨.set _ fun _ => rfl, rfl⟩
    · exact ⟨(hlock hm').1.trans (.set _ fun _ => rfl), rfl⟩
  | visitSkips hp | scanEnds hp =>
    have hd := hlock hm
    rw [hp] at hd
    exact hd
  | insertFails | aborts => exact absurd rfl (Store.locked_mem_abort.1 hm).2
  | commits => exact absurd rfl (Store.locked_mem_commit.1 hm).2

/-- The row `tid` has inserted, after its statement. -/
private theorem own_pending_step (h : RotationInv s) (hx : s.txns tid = some x)
    (hs : Statement s.ids s.sessions tid x e) {n : UserSession} (hm : .pending tid n ∈ s.sessions.after tid e) :
    (x.after e).inserted = some n ∧ (x.after e).phase.Pending n := by
  have hpend : ∀ {n}, .pending tid n ∈ s.sessions → x.inserted = some n ∧ x.phase.Pending n := h.pending_of hx
  cases hs with
  | createFails hp | creates hp | gets hp | touchFails hp | touchFinds hp | rotateMisses hp | rotateFinds hp
  | revokeMisses hp | revokeFinds hp | scans hp | revokeSkips hp | visitSkips hp | scanEnds hp =>
    exact absurd (hpend hm).2 (by simp [hp, SessionPhase.Pending])
  | waits | visitWaits => exact hpend hm
  | touches hp | rotateFails hp | revokes hp | rotateLocks hp | visits hp =>
    obtain ⟨hm, -⟩ | ⟨-, r₀, hm, -⟩ := Store.pending_mem_write.1 hm
    · exact absurd (hpend hm).2 (by simp [hp, SessionPhase.Pending])
    · exact absurd (hpend hm).2 (by simp [hp, SessionPhase.Pending])
  | insertsFirst hp =>
    rcases Store.mem_insert.1 hm with hm | hm
    · exact absurd (hpend hm).2 (by simp [hp, SessionPhase.Pending])
    · cases hm
      exact ⟨rfl, trivial⟩
  | insertsNext hp =>
    rcases Store.mem_insert.1 hm with hm | hm
    · exact absurd (hpend hm).2 (by simp [hp, SessionPhase.Pending])
    · cases hm
      exact ⟨rfl, rfl⟩
  | revokesOld hp =>
    rename_i old new
    have hf := h.flights tid x hx
    simp only [InFlight, hp] at hf
    obtain ⟨hm, -⟩ | ⟨-, r₀, hm, hk, -⟩ := Store.pending_mem_write.1 hm
    · exact ⟨(hpend hm).1, trivial⟩
    · cases h.ids.eq_of_key hm hf.1 hk
  | insertFails | aborts => exact absurd rfl (Store.pending_mem_abort.1 hm).2
  | commits => exact absurd rfl (Store.pending_mem_commit.1 hm).2

/-- Committed rows are replaced by later versions only. -/
theorem rows_evolve (h : RotationInv s) (tid : Tid) (e : SessionEffect) {r : UserSession}
    (hr : r ∈ s.sessions.rows) : ∃ r' ∈ (s.sessions.after tid e).rows, r.Evolves r' := by
  by_cases hc : ∃ reply, e = .commit reply
  · obtain ⟨reply, rfl⟩ := hc
    rcases Store.rows_commit_cases tid hr with hr' | ⟨d, hm⟩
    · exact ⟨r, hr', .refl r⟩
    · exact ⟨d, Store.draft_mem_rows_commit hm, (h.locks r tid d hm).1⟩
  · rw [Store.rows_after fun reply he => hc ⟨reply, he⟩]
    exact ⟨r, hr, .refl r⟩

/-- A row committed by `tid` is a later version of a committed row or a row `tid` has inserted. -/
theorem rows_commit (h : RotationInv s) {r : UserSession} (hr : r ∈ (s.sessions.commit tid).rows) :
    (∃ r₀ ∈ s.sessions.rows, r₀.Evolves r) ∨ .pending tid r ∈ s.sessions := by
  rcases Store.mem_rows_commit hr with hr | ⟨r₀, hm⟩ | hm
  · exact Or.inl ⟨r, hr, .refl r⟩
  · exact Or.inl ⟨r₀, Store.mem_rows.2 ⟨_, hm⟩, (h.locks r₀ tid r hm).1⟩
  · exact Or.inr hm

/-- A row in flight with a parent: `tid` holds the parent, which is not revoked, and has revoked it in its version
once the row can be committed. -/
theorem parent_of_pending (h : RotationInv s) (hx : s.txns tid = some x) {reply : SessionReply}
    (hp : x.phase = .returned reply) {n : UserSession} (hm : .pending tid n ∈ s.sessions) {p : Uuid}
    (hn : n.rotatedFrom = some p) :
    ∃ o d, .stored o (some (tid, d)) ∈ s.sessions ∧ o.id = p ∧ n.Succeeds o ∧ o.revokedAt = none ∧
      d.revokedAt.isSome := by
  obtain ⟨hi, hpend⟩ := h.pending_of hx hm
  rw [hp] at hpend
  cases reply with
  | created c =>
    have hf := h.flights tid x hx
    simp only [InFlight, hp] at hf
    obtain ⟨n', hi', -, hpar⟩ := hf
    rw [hi] at hi'
    cases hi'
    obtain ⟨o, d, ho, hid, hsucc⟩ := hpar p hn
    have hd := (h.lock_of hx ho).2
    rw [hp] at hd
    exact ⟨o, d, ho, hid, hsucc, hd.1, hd.2⟩
  | session _ | touched _ | revoked | revokedCount _ | failed _ | aborted _ => exact hpend.elim

/-- What `tid` has in flight after its statement. -/
private theorem own_flight_step (h : RotationInv s) (hx : s.txns tid = some x)
    (hs : Statement s.ids s.sessions tid x e) :
    InFlight (s.sessions.after tid e) tid (x.after e) := by
  have hf := h.flights tid x hx
  -- a login has one row in flight, a rotation two, and no other call has any
  cases hs with
  | createFails hp | touchFails hp | touchFinds hp | rotateMisses hp | rotateFinds hp | revokeMisses hp
  | revokeFinds hp | scans hp | revokeSkips hp | visitSkips hp | scanEnds hp | touches hp | rotateFails hp
  | revokes hp | visits hp =>
    simp only [InFlight, hp] at hf
    exact hf
  | creates hp =>
    simp only [InFlight, hp] at hf
    exact ⟨rfl, hf⟩
  | gets hp =>
    simp only [InFlight, hp] at hf
    generalize getUserSession s.ids.users s.sessions.rows x.now _ = reply
    cases reply <;> exact hf
  | waits hp | visitWaits hp =>
    simp only [InFlight, SessionTxn.after, hp] at hf ⊢
    exact hf
  | rotateLocks hp hc hl ho =>
    -- nobody holds the row, so its committed version is the latest
    obtain ⟨hrow, hid⟩ := h.latest_free hx hp hl
    simp only [InFlight, hp] at hf
    exact ⟨Store.locked_mem_write.2 (Or.inr (Or.inl ⟨hid, rfl, hrow, rfl⟩)), ⟨rfl, rfl, rfl⟩, hf⟩
  | insertFails | aborts => rfl
  | insertsFirst hp =>
    simp only [InFlight, hp] at hf
    refine ⟨_, rfl, Store.mem_insert.2 (Or.inr rfl), fun p hn => ?_⟩
    rw [hf.1] at hn
    cases hn
  | insertsNext hp =>
    simp only [InFlight, hp] at hf
    exact ⟨Store.mem_insert.2 (Or.inl hf.1), hf.2.1, Store.mem_insert.2 (Or.inr rfl), rfl⟩
  | revokesOld hp =>
    rename_i old new
    simp only [InFlight, hp] at hf
    obtain ⟨hold, hsucc, hnew, hi⟩ := hf
    refine ⟨new, hi, Store.pending_mem_write.2 (Or.inl ⟨hnew, fun he => ?_⟩), fun p hn => ?_⟩
    · cases h.ids.eq_of_key hnew hold he
    · rw [hsucc.rotatedFrom] at hn
      cases hn
      exact ⟨old, _, Store.locked_mem_write.2 (Or.inr (Or.inr ⟨rfl, rfl, old, hold, rfl⟩)), rfl, hsucc⟩
  | commits hp =>
    rename_i reply
    simp only [InFlight, hp] at hf
    cases reply with
    | created c =>
      obtain ⟨n, hi, hm, -⟩ := hf
      exact ⟨n, hi, n, Store.pending_mem_rows_commit hm, .refl n⟩
    | session _ | touched _ | revoked | revokedCount _ | failed _ | aborted _ => exact hf

end RotationInv

/-- A transaction keeps in flight what others do not touch. -/
private theorem InFlight.frame {S S' : Store Tid UserSession} {t : Tid} {x : SessionTxn} (h : InFlight S t x)
    (hlocks : ∀ r d, .stored r (some (t, d)) ∈ S → .stored r (some (t, d)) ∈ S')
    (hpend : ∀ n, .pending t n ∈ S → .pending t n ∈ S')
    (hrows : ∀ r ∈ S.rows, ∃ r' ∈ S'.rows, r.Evolves r') : InFlight S' t x := by
  unfold InFlight at h ⊢
  split at h
  · exact h
  · exact ⟨hlocks _ _ h.1, h.2⟩
  · exact ⟨hlocks _ _ h.1, h.2.1, hpend _ h.2.2.1, h.2.2.2⟩
  · obtain ⟨n, hi, hm, hpar⟩ := h
    refine ⟨n, hi, hpend n hm, fun p hn => ?_⟩
    obtain ⟨r, d, hr, hsucc⟩ := hpar p hn
    exact ⟨r, d, hlocks r d hr, hsucc⟩
  · obtain ⟨n, hi, r, hr, he⟩ := h
    obtain ⟨r', hr', he'⟩ := hrows r hr
    exact ⟨n, hi, r', hr', he.trans he'⟩
  · exact h

/-- An inserted row has a new id and a new token hash. -/
theorem Statement.insert_fresh {ids : IdentityTables} {S : Store Tid UserSession} {new : UserSession}
    {phase : SessionPhase} (hs : Statement ids S tid x (.insert new phase)) :
    (∀ y ∈ S, y.row.id ≠ new.id) ∧ ∀ y ∈ S, y.row.tokenHash ≠ new.tokenHash := by
  cases hs with
  | insertsFirst _ hid hth | insertsNext _ hid hth => exact ⟨hid, hth⟩

/-- A commit follows a reply. -/
theorem Statement.commit_phase {ids : IdentityTables} {S : Store Tid UserSession} {reply : SessionReply}
    (hs : Statement ids S tid x (.commit reply)) : x.phase = .returned reply := by
  cases hs with
  | commits hp => exact hp

private theorem UserSession.Succeeds.evolves {r r' o o' : UserSession} (h : r.Succeeds o) (hr : r.Evolves r')
    (ho : o.Evolves o') : r'.Succeeds o' where
  rotatedFrom := by rw [hr.rotatedFrom, ho.id]; exact h.rotatedFrom
  userId := by rw [hr.userId, ho.userId]; exact h.userId
  tenantId := by rw [hr.tenantId, ho.tenantId]; exact h.tenantId

private theorem RotationInv.parents_step (h : RotationInv s) (hx : s.txns tid = some x)
    (hs : Statement s.ids s.sessions tid x e) {r : UserSession} (hr : r ∈ (s.sessions.after tid e).rows) {p : Uuid}
    (hp : r.rotatedFrom = some p) :
    ∃ o ∈ (s.sessions.after tid e).rows, o.id = p ∧ r.Succeeds o ∧ o.revokedAt.isSome := by
  have hkeep : ∀ r₀ ∈ s.sessions.rows, r₀.Evolves r →
      ∃ o ∈ (s.sessions.after tid e).rows, o.id = p ∧ r.Succeeds o ∧ o.revokedAt.isSome := by
    intro r₀ hr₀ he
    obtain ⟨o, ho, hid, hsucc, hrev⟩ := h.parents r₀ hr₀ p (he.rotatedFrom ▸ hp)
    obtain ⟨o', ho', he'⟩ := h.rows_evolve tid e ho
    exact ⟨o', ho', he'.id.trans hid, hsucc.evolves he he', he'.revoked hrev⟩
  by_cases hc : ∃ reply, e = .commit reply
  · obtain ⟨reply, rfl⟩ := hc
    rcases h.rows_commit hr with ⟨r₀, hr₀, he⟩ | hm
    · exact hkeep r₀ hr₀ he
    · obtain ⟨o, d, ho, hid, hsucc, -, hd⟩ := h.parent_of_pending hx hs.commit_phase hm hp
      have he := (h.lock_of hx ho).1
      exact ⟨d, Store.draft_mem_rows_commit ho, he.id.trans hid, hsucc.evolves (.refl r) he, hd⟩
  · rw [Store.rows_after fun reply he => hc ⟨reply, he⟩] at hr
    exact hkeep r hr (.refl r)

private theorem RotationInv.successors_step (h : RotationInv s) (hx : s.txns tid = some x)
    (hs : Statement s.ids s.sessions tid x e) {r r' : UserSession} (hr : r ∈ (s.sessions.after tid e).rows)
    (hr' : r' ∈ (s.sessions.after tid e).rows) {p : Uuid} (hp : r.rotatedFrom = some p)
    (hp' : r'.rotatedFrom = some p) : r = r' := by
  by_cases hc : ∃ reply, e = .commit reply
  · obtain ⟨reply, rfl⟩ := hc
    -- a row with a pending sibling has a parent that is not revoked
    have hmix : ∀ {a b : UserSession}, a ∈ s.sessions.rows → .pending tid b ∈ s.sessions → a.rotatedFrom = some p →
        b.rotatedFrom = some p → False := by
      intro a b ha hb hpa hpb
      obtain ⟨o, d, ho, hid, -, hu, -⟩ := h.parent_of_pending hx hs.commit_phase hb hpb
      obtain ⟨o', ho', hid', -, hrev⟩ := h.parents a ha p hpa
      cases h.ids.rows_eq (Store.mem_rows.2 ⟨_, ho⟩) ho' (hid.trans hid'.symm)
      rw [hu] at hrev
      cases hrev
    rcases h.rows_commit hr with ⟨r₀, hr₀, he⟩ | hm <;> rcases h.rows_commit hr' with ⟨r₁, hr₁, he'⟩ | hm'
    · have heq := h.successors r₀ hr₀ r₁ hr₁ p (he.rotatedFrom ▸ hp) (he'.rotatedFrom ▸ hp')
      subst heq
      exact (h.ids.commit tid).rows_eq hr hr' (he.id.trans he'.id.symm)
    · exact (hmix hr₀ hm' (he.rotatedFrom ▸ hp) hp').elim
    · exact (hmix hr₁ hm (he'.rotatedFrom ▸ hp') hp).elim
    · have := (h.pending_of hx hm).1.symm.trans (h.pending_of hx hm').1
      exact Option.some.inj this
  · rw [Store.rows_after fun reply he => hc ⟨reply, he⟩] at hr hr'
    exact h.successors r hr r' hr' p hp hp'

/-- Every statement keeps the invariant. -/
theorem RotationInv.apply (h : RotationInv s) (hx : s.txns tid = some x)
    (hs : Statement s.ids s.sessions tid x e) : RotationInv (s.apply tid x e) where
  ids := h.ids.after (fun f r => f.id_eq r) fun new phase he => by subst he; exact hs.insert_fresh.1
  hashes := h.hashes.after (fun f r => f.tokenHash_eq r) fun new phase he => by subst he; exact hs.insert_fresh.2
  locks := by
    intro r t d hm
    by_cases ht : t = tid
    · subst ht
      obtain ⟨he, hd⟩ := h.own_lock_step hx hs hm
      exact ⟨he, _, s.apply_txns_self t x e, hd⟩
    · rw [SessionState.apply_txns_of_ne _ _ _ _ ht]
      exact h.locks r t d ((Store.locked_after_of_ne ht).1 hm)
  pendings := by
    intro t n hm
    by_cases ht : t = tid
    · subst ht
      exact ⟨_, s.apply_txns_self t x e, h.own_pending_step hx hs hm⟩
    · rw [SessionState.apply_txns_of_ne _ _ _ _ ht]
      exact h.pendings t n ((Store.pending_after_of_ne ht).1 hm)
  flights := by
    intro t y hy
    by_cases ht : t = tid
    · subst ht
      rw [SessionState.apply_txns_self] at hy
      cases hy
      exact h.own_flight_step hx hs
    · rw [SessionState.apply_txns_of_ne _ _ _ _ ht] at hy
      exact (h.flights t y hy).frame (fun r d => (Store.locked_after_of_ne ht).2)
        (fun n => (Store.pending_after_of_ne ht).2) fun r hr => h.rows_evolve tid e hr
  parents _ hr _ hp := h.parents_step hx hs hr hp
  successors _ hr _ hr' _ hp hp' := h.successors_step hx hs hr hr' hp hp'

theorem RotationInv.init (ids : IdentityTables) (clock : Int) : RotationInv (.init ids clock) where
  ids := .ofRows (l := []) List.nodup_nil
  hashes := .ofRows (l := []) List.nodup_nil
  locks _ _ _ hm := (List.not_mem_nil hm).elim
  pendings _ _ hm := (List.not_mem_nil hm).elim
  flights _ _ hx := by cases hx
  parents _ hr := (List.not_mem_nil hr).elim
  successors _ hr := (List.not_mem_nil hr).elim

/-- A new transaction has nothing in flight. -/
theorem RotationInv.begin (h : RotationInv s) (hn : s.txns tid = none) (call : SessionCall) :
    RotationInv (s.put tid ⟨s.clock, call, .start, none, []⟩) where
  ids := h.ids
  hashes := h.hashes
  locks := by
    intro r t d hm
    obtain ⟨he, x, hx, hd⟩ := h.locks r t d hm
    have ht : t ≠ tid := by rintro rfl; rw [hn] at hx; cases hx
    exact ⟨he, x, by rw [SessionState.put_txns_of_ne _ _ _ ht]; exact hx, hd⟩
  pendings := by
    intro t n hm
    obtain ⟨x, hx, hd⟩ := h.pendings t n hm
    have ht : t ≠ tid := by rintro rfl; rw [hn] at hx; cases hx
    exact ⟨x, by rw [SessionState.put_txns_of_ne _ _ _ ht]; exact hx, hd⟩
  flights := by
    intro t y hy
    by_cases ht : t = tid
    · subst ht
      rw [SessionState.put_txns_self] at hy
      cases hy
      rfl
    · rw [SessionState.put_txns_of_ne _ _ _ ht] at hy
      exact h.flights t y hy
  parents := h.parents
  successors := h.successors

theorem RotationInv.step {s' : SessionState} {a : SessionAction} (h : RotationInv s)
    (hs : sessionMachine.step s a = some s') : RotationInv s' := by
  rcases sessionMachine_step hs with ⟨d, rfl⟩ | ⟨tid, call, hn, rfl⟩ | ⟨tid, x, e, hx, hst, rfl, -⟩
  · exact ⟨h.ids, h.hashes, h.locks, h.pendings, h.flights, h.parents, h.successors⟩
  · exact h.begin hn call
  · exact h.apply hx hst

theorem RotationInv.reachable {ids : IdentityTables} {clock : Int}
    (hs : sessionMachine.Reachable (.init ids clock) s) : RotationInv s :=
  hs.invariant (fun _ _ _ h hst => h.step hst) (.init ids clock)

end Step

end CleanBackend
