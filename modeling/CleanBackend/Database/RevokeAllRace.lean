import CleanBackend.Database.RotationInvariant

/-!
# Log out everywhere against rotations and touches

`revoke_all_user_sessions` visits the sessions its snapshot found.  A rotation that holds one of them makes it wait;
once the rotation has committed, the `WHERE` fails on the old row and the new row is not in the snapshot, so the new
session stays valid.  The same happens when a transaction that started earlier commits a version of a session that had
expired for `revoke_all`.  Where no commit revives a session in this way, no session of the user survives.
-/

namespace CleanBackend

/-- The sessions of user `u` in tenant `t` among `rows₀`, and those minted from them; `rows` are the parents. -/
inductive Lineage (rows₀ : List UserSession) (u t : Uuid) (rows : List UserSession) : UserSession → Prop where
  | existed {r₀ r} (h₀ : r₀ ∈ rows₀) (hu : r₀.userId = u) (ht : r₀.tenantId = t) (hid : r.id = r₀.id) :
      Lineage rows₀ u t rows r
  | minted {o r} (ho : o ∈ rows) (hl : Lineage rows₀ u t rows o) (hfrom : r.rotatedFrom = some o.id) :
      Lineage rows₀ u t rows r

/-- The rows `revoke_all_user_sessions` has still to visit. -/
def SessionPhase.todo : SessionPhase → List Uuid
  | visiting todo _ => todo
  | _ => []

/-- `t` has a version of this row to commit. -/
def Store.Wrote (s : Store Tid UserSession) (t : Tid) (r : UserSession) : Prop :=
  (∃ r₀, .stored r₀ (some (t, r)) ∈ s) ∨ .pending t r ∈ s

/-- The step does not revive a session: once the `revoke_all` of `ra` has taken its snapshot, no other transaction
commits a version of a targeted session that is live at its `now()` and that it will not visit any more. -/
def NoRevival (ra : Tid) (u t : Uuid) (rows₀ : List UserSession) (s : SessionState) (a : SessionAction) : Prop :=
  ∀ tid x reply y, a = .exec tid → s.txns tid = some x → x.phase = .returned reply → tid ≠ ra →
    s.txns ra = some y → y.phase ≠ .start →
    ∀ r, s.sessions.Wrote tid r → Lineage rows₀ u t s.sessions.rows r → r.Live y.now → r.id ∈ y.phase.todo

/-! ### What `revoke_all` has covered -/

/-- After its snapshot, the live targeted sessions are those `ra` will visit and those it holds. -/
def Covered (S : Store Tid UserSession) (ra : Tid) (u t : Uuid) (rows₀ : List UserSession) (now : Int)
    (phase : SessionPhase) : Prop :=
  ∀ r ∈ S.rows, Lineage rows₀ u t S.rows r → r.Live now →
    r.id ∈ phase.todo ∨ ∃ d, .stored r (some (ra, d)) ∈ S

/-- The phases of `revoke_all` after its snapshot. -/
def SessionPhase.Scanning : SessionPhase → Prop
  | visiting _ _ | returned (.revokedCount _) | committed (.revokedCount _) => True
  | _ => False

structure RevokeAllInv (ra : Tid) (u t : Uuid) (rows₀ : List UserSession) (s : SessionState) : Prop where
  rotations : RotationInv s
  persist : ∀ r₀ ∈ rows₀, ∃ r ∈ s.sessions.rows, r₀.Evolves r
  covered : ∃ y, s.txns ra = some y ∧ y.call = .revokeAll u t ∧ y.now ≤ s.clock ∧
    (y.phase = .start ∨ (∃ cause, y.phase = .rolledBack cause) ∨
      (y.phase.Scanning ∧ Covered s.sessions ra u t rows₀ y.now y.phase))

section Lineage

variable {rows₀ rows rows' : List UserSession} {u t : Uuid} {r r' : UserSession}

private theorem Lineage.congr (h : Lineage rows₀ u t rows r) (hid : r'.id = r.id)
    (hfrom : r'.rotatedFrom = r.rotatedFrom) :
    Lineage rows₀ u t rows r' := by
  cases h with
  | existed h₀ hu ht hid₀ => exact .existed h₀ hu ht (hid.trans hid₀)
  | minted ho hl hfrom₀ => exact .minted ho hl (hfrom.trans hfrom₀)

variable {s : SessionState} {tid : Tid}

/-- The session of a targeted row is one of the user in the tenant. -/
private theorem Lineage.owner (hl : Lineage rows₀ u t s.sessions.rows r) (h : RotationInv s)
    (hp : ∀ r₀ ∈ rows₀, ∃ r ∈ s.sessions.rows, r₀.Evolves r) (hr : r ∈ s.sessions.rows) :
    r.userId = u ∧ r.tenantId = t := by
  induction hl with
  | existed h₀ hu ht hid =>
    obtain ⟨r', hr', he⟩ := hp _ h₀
    cases h.ids.rows_eq hr hr' (hid.trans he.id.symm)
    exact ⟨he.userId.trans hu, he.tenantId.trans ht⟩
  | minted ho hl hfrom ih =>
    obtain ⟨o, ho', hid, hsucc, -⟩ := h.parents _ hr _ hfrom
    cases h.ids.rows_eq ho' ho hid
    obtain ⟨hu, ht⟩ := ih ho
    exact ⟨hsucc.userId.trans hu, hsucc.tenantId.trans ht⟩

/-- A commit does not change who descends from whom: the parents were committed before. -/
private theorem Lineage.of_commit (hl : Lineage rows₀ u t (s.sessions.commit tid).rows r) (h : RotationInv s)
    {x : SessionTxn} {reply : SessionReply} (hx : s.txns tid = some x) (hp : x.phase = .returned reply)
    (hr : r ∈ (s.sessions.commit tid).rows) : Lineage rows₀ u t s.sessions.rows r := by
  induction hl with
  | existed h₀ hu ht hid => exact .existed h₀ hu ht hid
  | minted ho hl hfrom ih =>
    rename_i o r
    have hparent : ∃ o' ∈ s.sessions.rows, o'.id = o.id := by
      rcases h.rows_commit hr with ⟨r₀, hr₀, he⟩ | hm
      · obtain ⟨o', ho', hid, -⟩ := h.parents r₀ hr₀ o.id (he.rotatedFrom ▸ hfrom)
        exact ⟨o', ho', hid⟩
      · obtain ⟨o', d, ho', hid, -⟩ := h.parent_of_pending hx hp hm hfrom
        exact ⟨o', Store.mem_rows.2 ⟨_, ho'⟩, hid⟩
    obtain ⟨o', ho', hid⟩ := hparent
    obtain ⟨o'', ho'', he⟩ := h.rows_evolve tid (.commit reply) ho'
    cases (h.ids.commit tid).rows_eq ho'' ho (he.id.trans hid)
    exact .minted ho' ((ih ho).congr hid he.rotatedFrom.symm) (hfrom.trans (congrArg some hid.symm))

end Lineage

section Step

variable {s : SessionState} {ra tid : Tid} {u t : Uuid} {rows₀ : List UserSession} {x : SessionTxn}
  {e : SessionEffect}

/-- Another transaction takes a step. -/
private theorem Covered.other_step {now : Int} {phase : SessionPhase} (hc : Covered s.sessions ra u t rows₀ now phase)
    (h : RotationInv s) (hne : tid ≠ ra) (hx : s.txns tid = some x) (hs : Statement s.ids s.sessions tid x e)
    (hrev : ∀ reply, e = .commit reply → ∀ r, s.sessions.Wrote tid r → Lineage rows₀ u t s.sessions.rows r →
      r.Live now → r.id ∈ phase.todo) : Covered (s.sessions.after tid e) ra u t rows₀ now phase := by
  have hheld : ∀ {r d}, .stored r (some (ra, d)) ∈ s.sessions →
      .stored r (some (ra, d)) ∈ s.sessions.after tid e := (Store.locked_after_of_ne hne.symm).2
  intro r hr hl hlive
  by_cases hcom : ∃ reply, e = .commit reply
  · obtain ⟨reply, rfl⟩ := hcom
    have hl' := hl.of_commit h hx hs.commit_phase hr
    rcases Store.mem_rows_commit hr with hr | hw
    · exact (hc r hr hl' hlive).imp_right fun ⟨d, hm⟩ => ⟨d, hheld hm⟩
    · exact Or.inl (hrev reply rfl r hw hl' hlive)
  · rw [Store.rows_after fun reply he => hcom ⟨reply, he⟩] at hr hl
    exact (hc r hr hl hlive).imp_right fun ⟨d, hm⟩ => ⟨d, hheld hm⟩

/-- The snapshot of `revoke_all` has every live targeted session. -/
private theorem covered_scan (h : RotationInv s) (hp : ∀ r₀ ∈ rows₀, ∃ r ∈ s.sessions.rows,
    r₀.Evolves r) (now : Int) :
    Covered s.sessions ra u t rows₀ now
      (.visiting ((s.sessions.rows.filter (UserSession.revocable u t now)).map UserSession.id) 0) := by
  intro r hr hl hlive
  obtain ⟨hu, ht⟩ := hl.owner h hp hr
  obtain ⟨hrev, habs, hidle⟩ := hlive
  refine Or.inl (List.mem_map_of_mem (List.mem_filter.2 ⟨hr, ?_⟩))
  simp [UserSession.revocable, hu, ht, hrev, habs, hidle]

/-- The row `revoke_all` gets is the committed one, or one it holds. -/
private theorem RotationInv.latest_scan (h : RotationInv s) (hx : s.txns ra = some x) {todo : List Uuid} {count : Nat}
    (hp : x.phase = .visiting todo count) {row r : UserSession} (hl : s.sessions.Latest ra r.id row)
    (hr : r ∈ s.sessions.rows) :
    (row = r ∧ .stored r none ∈ s.sessions) ∨ ∃ d, .stored r (some (ra, d)) ∈ s.sessions := by
  rcases hl with ha | ha
  · obtain ⟨hm, hk⟩ := Store.access_free ha
    cases h.ids.rows_eq (Store.mem_rows.2 ⟨_, hm⟩) hr hk
    exact Or.inl ⟨rfl, hm⟩
  · rcases Store.access_mine ha with ⟨r', hm, hk⟩ | ⟨hm, -⟩
    · cases h.ids.rows_eq (Store.mem_rows.2 ⟨_, hm⟩) hr hk
      exact Or.inr ⟨_, hm⟩
    · exact absurd (h.pending_of hx hm).2 (by simp [hp, SessionPhase.Pending])

/-- `revoke_all` commits: what it held is revoked. -/
private theorem Covered.commit (hc : Covered s.sessions ra u t rows₀ x.now x.phase) (h : RotationInv s)
    (hx : s.txns ra = some x) {count : Nat} (hp : x.phase = .returned (.revokedCount count)) (phase : SessionPhase) :
    Covered (s.sessions.commit ra) ra u t rows₀ x.now phase := by
  intro r hr hl hlive
  have hdraft : ∀ {r₀ d}, .stored r₀ (some (ra, d)) ∈ s.sessions → d.revokedAt.isSome := by
    intro r₀ d hm
    have hd := (h.lock_of hx hm).2
    rw [hp] at hd
    exact hd
  have hdead : ¬ r.revokedAt.isSome := by rw [hlive.1]; exact nofun
  rcases Store.mem_rows_commit hr with hr' | ⟨r₀, hm⟩ | hm
  · rcases hc r hr' (hl.of_commit h hx hp hr) hlive with htodo | ⟨d, hm⟩
    · rw [hp] at htodo
      cases htodo
    · have hd := Store.draft_mem_rows_commit hm
      cases (h.ids.commit ra).rows_eq hd hr (h.lock_of hx hm).1.id
      exact absurd (hdraft hm) hdead
  · exact absurd (hdraft hm) hdead
  · exact absurd (h.pending_of hx hm).2 (by simp [hp, SessionPhase.Pending])

/-- The first statement of `revoke_all` is its scan. -/
private theorem Statement.from_start (hs : Statement s.ids s.sessions ra x e) (hp : x.phase = .start)
    (hcall : x.call = .revokeAll u t) :
    e = .goto (.visiting ((s.sessions.rows.filter (UserSession.revocable u t x.now)).map UserSession.id) 0) ∨
    ∃ cause, e = .rollback cause := by
  cases hs with
  | createFails _ hc | creates _ hc | gets _ hc | touchFails _ hc | touchFinds _ hc | rotateMisses _ hc
  | rotateFinds _ hc | revokeMisses _ hc | revokeFinds _ hc =>
    rw [hcall] at hc
    cases hc
  | scans _ hc =>
    rw [hcall] at hc
    cases hc
    exact Or.inl rfl
  | insertFails | aborts => exact Or.inr ⟨_, rfl⟩
  | waits hp' | touches hp' | rotateFails hp' | rotateLocks hp' | revokeSkips hp' | revokes hp' | insertsFirst hp'
  | insertsNext hp' | revokesOld hp' | visitWaits hp' | visits hp' | visitSkips hp' | scanEnds hp' | commits hp' =>
    rw [hp] at hp'
    cases hp'

/-- `revoke_all` takes a step after its snapshot. -/
private theorem Covered.own_step (hc : Covered s.sessions ra u t rows₀ x.now x.phase) (h : RotationInv s)
    (hx : s.txns ra = some x) (hcall : x.call = .revokeAll u t)
    (hp₀ : ∀ r₀ ∈ rows₀, ∃ r ∈ s.sessions.rows, r₀.Evolves r) (hscan : x.phase.Scanning)
    (hs : Statement s.ids s.sessions ra x e) :
    (∃ cause, e = .rollback cause) ∨
    ((x.after e).phase.Scanning ∧ Covered (s.sessions.after ra e) ra u t rows₀ x.now (x.after e).phase) := by
  cases hs with
  | createFails hp | creates hp | gets hp | touchFails hp | touchFinds hp | rotateMisses hp | rotateFinds hp
  | revokeMisses hp | revokeFinds hp | scans hp | waits hp | touches hp | rotateFails hp | rotateLocks hp
  | revokeSkips hp | revokes hp | insertsFirst hp | insertsNext hp | revokesOld hp =>
    rw [hp] at hscan
    exact hscan.elim
  | visitWaits => exact Or.inr ⟨hscan, hc⟩
  | insertFails | aborts => exact Or.inl ⟨_, rfl⟩
  | visits hp hc' hl hw =>
    rename_i id u' t' todo count row
    refine Or.inr ⟨trivial, fun r hr hlin hlive => ?_⟩
    rw [Store.rows_after fun _ he => by cases he] at hr hlin
    have hkeep : (∃ d, .stored r (some (ra, d)) ∈ s.sessions) → ∃ d, .stored r (some (ra, d)) ∈
        s.sessions.after ra (.write id (.revoke x.now) (.visiting (todo.erase id) (count + 1))) := fun ⟨d, hm⟩ =>
      Store.locked_after_self (fun _ he => by cases he) (fun _ he => by cases he) hm
    rcases hc r hr hlin hlive with htodo | hm
    · rw [hp] at htodo
      -- the row of this visit is revoked, and the others stay to be visited
      by_cases hid : r.id = id
      · subst hid
        rcases h.latest_scan hx hp hl hr with ⟨-, hm⟩ | hm
        · exact Or.inr ⟨_, Store.locked_mem_write.2 (Or.inr (Or.inl ⟨rfl, rfl, hm, rfl⟩))⟩
        · exact Or.inr (hkeep hm)
      · exact Or.inl ((List.mem_erase_of_ne hid).2 htodo)
    · exact Or.inr (hkeep hm)
  | visitSkips hp hc' hl hw =>
    rename_i id u' t' todo count row
    refine Or.inr ⟨trivial, fun r hr hlin hlive => ?_⟩
    rcases hc r hr hlin hlive with htodo | hm
    · rw [hp] at htodo
      by_cases hid : r.id = id
      · subst hid
        rcases h.latest_scan hx hp hl hr with ⟨rfl, -⟩ | hm
        · -- a live session of the user passes the `WHERE`
          rw [hcall] at hc'
          cases hc'
          obtain ⟨hu, ht⟩ := hlin.owner h hp₀ hr
          obtain ⟨hrev, habs, hidle⟩ := hlive
          exact absurd (by simp [UserSession.revocable, hu, ht, hrev, habs, hidle]) hw
        · exact Or.inr hm
      · exact Or.inl ((List.mem_erase_of_ne hid).2 htodo)
    · exact Or.inr hm
  | scanEnds hp =>
    refine Or.inr ⟨trivial, fun r hr hlin hlive => ?_⟩
    rcases hc r hr hlin hlive with htodo | hm
    · rw [hp] at htodo
      cases htodo
    · exact Or.inr hm
  | commits hp =>
    rename_i reply
    rw [hp] at hscan
    cases reply with
    | revokedCount count => exact Or.inr ⟨trivial, hc.commit h hx hp _⟩
    | created _ | session _ | touched _ | revoked | failed _ | aborted _ => exact hscan.elim

/-- A step that revives no session keeps the invariant. -/
private theorem RevokeAllInv.step {s' : SessionState} {a : SessionAction} (h : RevokeAllInv ra u t rows₀ s)
    (hrev : NoRevival ra u t rows₀ s a) (hst : sessionMachine.step s a = some s') : RevokeAllInv ra u t rows₀ s' := by
  have hrot := h.rotations.step hst
  obtain ⟨y, hy, hcall, hnow, hcov⟩ := h.covered
  rcases sessionMachine_step hst with ⟨d, rfl⟩ | ⟨tid, call, hn, rfl⟩ | ⟨tid, x, e, hx, hs, rfl, hexec⟩
  · exact ⟨hrot, h.persist, y, hy, hcall, by simp only; omega, hcov⟩
  · have hne : ra ≠ tid := by rintro rfl; rw [hn] at hy; cases hy
    exact ⟨hrot, h.persist, y, by rw [SessionState.put_txns_of_ne _ _ _ hne]; exact hy, hcall, hnow, hcov⟩
  · refine ⟨hrot, fun r₀ hr₀ => ?_, ?_⟩
    · obtain ⟨r, hr, he⟩ := h.persist r₀ hr₀
      obtain ⟨r', hr', he'⟩ := h.rotations.rows_evolve tid e hr
      exact ⟨r', hr', he.trans he'⟩
    by_cases hne : tid = ra
    · subst hne
      obtain rfl : x = y := Option.some.inj (hx.symm.trans hy)
      refine ⟨x.after e, s.apply_txns_self tid x e, by rw [SessionTxn.after_call]; exact hcall,
        by rw [SessionTxn.after_now]; exact hnow, ?_⟩
      rw [SessionTxn.after_now]
      rcases hcov with hp | ⟨cause, hp⟩ | ⟨hscan, hc⟩
      · rcases hs.from_start hp hcall with rfl | ⟨cause, rfl⟩
        · exact Or.inr (Or.inr ⟨trivial, covered_scan h.rotations h.persist x.now⟩)
        · exact Or.inr (Or.inl ⟨cause, rfl⟩)
      · have hu := hs.unfinished
        rw [hp] at hu
        cases hu
      · rcases hc.own_step h.rotations hx hcall h.persist hscan hs with ⟨cause, rfl⟩ | hc'
        · exact Or.inr (Or.inl ⟨cause, rfl⟩)
        · exact Or.inr (Or.inr hc')
    · refine ⟨y, by rw [SessionState.apply_txns_of_ne _ _ _ _ (Ne.symm hne)]; exact hy, hcall, hnow, ?_⟩
      refine hcov.imp_right fun hcov => hcov.imp_right fun ⟨hscan, hc⟩ => ⟨hscan, ?_⟩
      refine hc.other_step h.rotations hne hx hs fun reply he r hw hl hlive => ?_
      subst he
      refine hrev tid x reply y (hexec reply rfl) hx hs.commit_phase hne hy ?_ r hw hl hlive
      intro hp
      rw [hp] at hscan
      exact hscan

end Step

/-! ### Runs through a `revoke_all_user_sessions` -/

/-- A run with a `revoke_all_user_sessions(user, tenant)` in transaction `ra`: it starts in `s₀`, has committed its
success in `s₁`, and the run goes on to `s`. -/
structure RevokeAllRun (ids : IdentityTables) (clock : Int) where
  ra : Tid
  user : Uuid
  tenant : Uuid
  before : List SessionAction
  during : List SessionAction
  after : List SessionAction
  s₀ : SessionState
  s₁ : SessionState
  s : SessionState
  reached : sessionMachine.run (.init ids clock) before = some s₀
  returned : sessionMachine.run s₀ (.start ra (.revokeAll user tenant) :: (during ++ [.exec ra])) = some s₁
  success : ∃ count, (s₁.txns ra).map SessionTxn.phase = some (.committed (.revokedCount count))
  later : sessionMachine.run s₁ after = some s

namespace RevokeAllRun

variable {ids : IdentityTables} {clock : Int} (R : RevokeAllRun ids clock)

/-- The sessions of the user in the tenant that existed when `revoke_all` started, and those reached from them by
rotations that started before it returned. -/
inductive Targeted : UserSession → Prop where
  | existed {r₀ r} (h₀ : r₀ ∈ R.s₀.sessions.rows) (hu : r₀.userId = R.user) (ht : r₀.tenantId = R.tenant)
      (hr : r ∈ R.s.sessions.rows) (hid : r.id = r₀.id) : Targeted r
  | minted {o r n tid x} (ho : Targeted o) (hr : r ∈ R.s.sessions.rows) (hfrom : r.rotatedFrom = some o.id)
      (hstarted : (R.s₁.txns tid).isSome) (hx : R.s.txns tid = some x) (hn : x.inserted = some n)
      (hid : r.id = n.id) : Targeted r

/-- No later `get_user_session` resolves a targeted session. -/
def Complete : Prop :=
  ∀ r, R.Targeted r → ∀ now, R.s₁.clock ≤ now → ∀ data,
    getUserSession R.s.ids.users R.s.sessions.rows now r.tokenHash ≠ .ok data

/-- The steps from the start of `revoke_all`. -/
def steps : List SessionAction :=
  .start R.ra (.revokeAll R.user R.tenant) :: (R.during ++ [.exec R.ra] ++ R.after)

variable {R}

private theorem Targeted.mem {r : UserSession} (h : R.Targeted r) : r ∈ R.s.sessions.rows := by
  cases h with
  | existed _ _ _ hr => exact hr
  | minted _ hr => exact hr

private theorem Targeted.lineage {r : UserSession} (h : R.Targeted r) :
    Lineage R.s₀.sessions.rows R.user R.tenant R.s.sessions.rows r := by
  induction h with
  | existed h₀ hu ht hr hid => exact .existed h₀ hu ht hid
  | minted ho hr hfrom _ _ _ _ ih => exact .minted ho.mem ih hfrom

/-- In a run that revives no session, the invariant holds when `revoke_all` has returned and ever after. -/
private theorem inv_of_noRevival
    (h : sessionMachine.Along (NoRevival R.ra R.user R.tenant R.s₀.sessions.rows) R.s₀ R.steps) :
    RevokeAllInv R.ra R.user R.tenant R.s₀.sessions.rows R.s₁ ∧
      RevokeAllInv R.ra R.user R.tenant R.s₀.sessions.rows R.s := by
  obtain ⟨s, hstart, hret⟩ := Machine.run_cons.1 R.returned
  have hinit : RevokeAllInv R.ra R.user R.tenant R.s₀.sessions.rows s := by
    have h₀ : RotationInv R.s₀ := .reachable ⟨R.before, R.reached⟩
    simp only [sessionMachine] at hstart
    split at hstart
    · rename_i hn
      cases hstart
      exact ⟨h₀.begin hn _, fun r hr => ⟨r, hr, .refl r⟩, _, SessionState.put_txns_self .., rfl, Int.le_refl _,
        Or.inl rfl⟩
    · cases hstart
  obtain ⟨hduring, hafter⟩ := Machine.Along.append hret (h.2 s hstart)
  have h₁ := Machine.along_induction (fun _ _ _ h hc hst => h.step hc hst) hret hduring hinit
  exact ⟨h₁, Machine.along_induction (fun _ _ _ h hc hst => h.step hc hst) R.later hafter h₁⟩

end RevokeAllRun

/-- Log out everywhere is complete in every run in which no commit revives a session. -/
theorem revokeAll_complete {ids : IdentityTables} {clock : Int} (R : RevokeAllRun ids clock)
    (h : sessionMachine.Along (NoRevival R.ra R.user R.tenant R.s₀.sessions.rows) R.s₀ R.steps) : R.Complete := by
  intro r hr now hnow data hget
  obtain ⟨h₁, hs⟩ := RevokeAllRun.inv_of_noRevival h
  -- the transaction is the one that returned in `s₁`
  obtain ⟨count, hcount⟩ := R.success
  obtain ⟨x, hx, hp⟩ := Option.map_eq_some_iff.1 hcount
  obtain ⟨x₁, hx₁, -, hclock, -⟩ := h₁.covered
  obtain rfl : x = x₁ := Option.some.inj (hx.symm.trans hx₁)
  obtain ⟨y, hy, -, -, hcov⟩ := hs.covered
  obtain rfl : x = y := Option.some.inj ((sessionMachine_finished R.later hx (by rw [hp]; rfl)).symm.trans hy)
  rw [hp] at hcov
  rcases hcov with hp' | ⟨cause, hp'⟩ | ⟨-, hcov⟩
  · cases hp'
  · cases hp'
  · obtain ⟨r', hf, hrev, habs, hidle⟩ := getUserSession_ok hget
    have hmem := findBy_some hf
    obtain rfl : r' = r := hs.rotations.hashes.rows_eq hmem.1 hr.mem hmem.2
    have hlive : r'.Live x.now := ⟨hrev, by omega, by omega⟩
    rcases hcov r' hr.mem hr.lineage hlive with htodo | ⟨d, hm⟩
    · cases htodo
    · have hd := (hs.rotations.lock_of hy hm).2
      rw [hp] at hd
      exact hd

/-! ### Among rotations and touches -/

/-- A session, and the session that a rotation makes of it. -/
def oldSession : UserSession := (loginArgs 1).row 100 0
def newSession : UserSession := (rotationArgs 1 2).row 101 0 oldSession

/-- The version of a row that `t` has to commit. -/
def Slot.draft (t : Tid) : Slot Tid UserSession → Option UserSession
  | .stored _ (some (owner, r)) | .pending owner r => if owner = t then some r else none
  | .stored _ none => none

/-- After its snapshot, `ra` has still to visit what the step commits, or what it commits is dead. -/
def CommitsUnvisited (ra : Tid) (s : SessionState) : SessionAction → Prop
  | .exec tid => tid = ra ∨ ∀ x ∈ s.txns tid, ∀ y ∈ s.txns ra,
      (x.phase matches .returned _) = false ∨ y.phase = .start ∨
        ∀ slot ∈ s.sessions, ∀ r ∈ slot.draft tid, r.Live y.now → r.id ∈ y.phase.todo
  | _ => True

instance (ra : Tid) (s : SessionState) : DecidablePred (CommitsUnvisited ra s)
  | .exec tid => inferInstanceAs (Decidable (tid = ra ∨ ∀ x ∈ s.txns tid, ∀ y ∈ s.txns ra, _ ∨ _ ∨
      ∀ slot ∈ s.sessions, ∀ r ∈ slot.draft tid, r.Live y.now → r.id ∈ y.phase.todo))
  | .tick _ | .start _ _ | .visit _ _ | .abort _ => isTrue trivial

private theorem CommitsUnvisited.noRevival {ra : Tid} {s : SessionState} {a : SessionAction}
    (h : CommitsUnvisited ra s a) (u t : Uuid) (rows₀ : List UserSession) : NoRevival ra u t rows₀ s a := by
  rintro tid x reply y rfl hx hp hne hy hstart r hw - hlive
  rcases h.resolve_left hne x hx y hy with hret | hy' | h
  · rw [hp] at hret
    cases hret
  · exact absurd hy' hstart
  · rcases hw with ⟨r₀, hm⟩ | hm
    · exact h _ hm r (by simp [Slot.draft]) hlive
    · exact h _ hm r (by simp [Slot.draft]) hlive

/-- `revoke_all` in transaction 1: before its snapshot a rotation commits, after it a touch of the new session, which
`revoke_all` waits for; and a rotation of the new session waits for `revoke_all`. -/
def revokeAllAmongOthers : List SessionAction :=
  [.start 2 (.rotate 101 (rotationArgs 1 2)), .exec 2, .exec 2, .exec 2, .exec 2, .exec 2, .exec 1,
    .start 3 (.touch (hashOf 2) 86400000000), .exec 3, .exec 3, .visit 1 101, .exec 3, .visit 1 101,
    .start 4 (.rotate 102 (rotationArgs 2 3)), .exec 4, .exec 4, .exec 1]

/-- The rotation, the touch and `revoke_all` succeed, the later rotation finds its session revoked, and no session is
resolved. -/
theorem revokeAll_complete_interleaved : ∃ R : RevokeAllRun oneMember 0,
    R.s₀.sessions.rows = [oldSession] ∧ R.during = revokeAllAmongOthers ∧
      (R.s.txns 1).map SessionTxn.phase = some (.committed (.revokedCount 1)) ∧
      (R.s.txns 2).map SessionTxn.phase = some (.committed (.created newSession.created)) ∧
      (R.s.txns 3).map SessionTxn.phase = some (.committed (.touched 86400000000)) ∧
      (R.s.txns 4).map SessionTxn.phase = some (.committed (.failed .sessionRevoked)) ∧ R.Complete := by
  have hrun : ((sessionMachine.run (.init oneMember 0)
      [.start 0 (.create 100 (loginArgs 1)), .exec 0, .exec 0, .exec 0]).bind fun s₀ =>
      (sessionMachine.run s₀ (.start 1 (.revokeAll 1 1) :: (revokeAllAmongOthers ++ [.exec 1]))).bind fun s₁ =>
      (sessionMachine.run s₁ [.exec 4, .exec 4]).map fun s =>
        ((s₀.sessions.rows, (s₁.txns 1).map SessionTxn.phase), [1, 2, 3, 4].map fun tid =>
          (s.txns tid).map SessionTxn.phase)) =
      some (([oldSession], some (.committed (.revokedCount 1))), [some (.committed (.revokedCount 1)),
        some (.committed (.created newSession.created)), some (.committed (.touched 86400000000)),
        some (.committed (.failed .sessionRevoked))]) := by decide
  have hsteps : (sessionMachine.run (.init oneMember 0)
      [.start 0 (.create 100 (loginArgs 1)), .exec 0, .exec 0, .exec 0]).any (fun s₀ =>
      decide (sessionMachine.Along (CommitsUnvisited 1) s₀
        (.start 1 (.revokeAll 1 1) :: (revokeAllAmongOthers ++ [.exec 1] ++ [.exec 4, .exec 4])))) = true := by decide
  obtain ⟨s₀, h₀, hrun⟩ := Option.bind_eq_some_iff.1 hrun
  obtain ⟨s₁, h₁, hrun⟩ := Option.bind_eq_some_iff.1 hrun
  obtain ⟨s, h, hrun⟩ := Option.map_eq_some_iff.1 hrun
  simp only [List.map_cons, List.map_nil, Prod.mk.injEq, List.cons.injEq] at hrun
  obtain ⟨⟨hrows, hphase⟩, hrevoked, hrotated, htouched, hrefused, -⟩ := hrun
  rw [h₀, Option.any_some, decide_eq_true_eq] at hsteps
  refine ⟨⟨1, 1, 1, _, revokeAllAmongOthers, [.exec 4, .exec 4], s₀, s₁, s, h₀, h₁, ⟨1, hphase⟩, h⟩, hrows, rfl,
    hrevoked, hrotated, htouched, hrefused, revokeAll_complete _ ?_⟩
  exact hsteps.mono fun _ _ hc => hc.noRevival _ _ _

/-- A rotation of the session has inserted the new one when `revoke_all` takes its snapshot, and commits before it
comes to the old one: `revoke_all` answers with a count of zero, and the new token is resolved. -/
theorem revokeAll_misses_rotation : ¬ ∀ ids clock, ∀ R : RevokeAllRun ids clock, R.Complete := by
  intro hclaim
  have hrun : ((sessionMachine.run (.init oneMember 0)
      [.start 0 (.create 100 (loginArgs 1)), .exec 0, .exec 0, .exec 0,
        .start 1 (.rotate 101 (rotationArgs 1 2)), .exec 1, .exec 1, .exec 1]).bind fun s₀ =>
      (sessionMachine.run s₀ (.start 2 (.revokeAll 1 1) ::
        ([.exec 2, .exec 1, .exec 1, .visit 2 100, .exec 2] ++ [.exec 2]))).map fun s₁ =>
          ((s₀.sessions.rows, s₁.sessions.rows),
            ((s₁.txns 1).map SessionTxn.inserted, (s₁.txns 2).map SessionTxn.phase),
            (getUserSession s₁.ids.users s₁.sessions.rows s₁.clock (hashOf 2)).toOption)) =
      some (([oldSession], [{ oldSession with revokedAt := some 0 }, newSession]),
        (some (some newSession), some (.committed (.revokedCount 0))),
        some (newSession.active (some "alice@example.com"))) := by decide
  obtain ⟨s₀, h₀, hrun⟩ := Option.bind_eq_some_iff.1 hrun
  obtain ⟨s₁, h₁, hrun⟩ := Option.map_eq_some_iff.1 hrun
  simp only [Prod.mk.injEq] at hrun
  obtain ⟨⟨hrows₀, hrows₁⟩, ⟨hins, hphase⟩, hget⟩ := hrun
  obtain ⟨x, hx, hxi⟩ := Option.map_eq_some_iff.1 hins
  let R : RevokeAllRun oneMember 0 := ⟨2, 1, 1, _, _, [], s₀, s₁, s₁, h₀, h₁, ⟨0, hphase⟩, rfl⟩
  have hfirst : oldSession ∈ R.s₀.sessions.rows := by simp [R, hrows₀]
  have hold : R.Targeted { oldSession with revokedAt := some 0 } :=
    .existed hfirst rfl rfl (by simp [R, hrows₁]) rfl
  have hnew : R.Targeted newSession :=
    .minted hold (by simp [R, hrows₁]) rfl (by simp [R, hx]) hx hxi rfl
  have hdead : ∀ data, getUserSession s₁.ids.users s₁.sessions.rows s₁.clock (hashOf 2) ≠ .ok data :=
    hclaim oneMember 0 R newSession hnew s₁.clock (Int.le_refl _)
  cases hg : getUserSession s₁.ids.users s₁.sessions.rows s₁.clock (hashOf 2) with
  | error e => rw [hg] at hget; cases hget
  | ok data => exact hdead data hg

end CleanBackend
