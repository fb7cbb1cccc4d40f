import CleanBackend.Database.AtomicCalls
import CleanBackend.Lib.Linearization

/-!
# The session functions are linearizable

`create`, `get`, `touch`, `rotate` and `revoke` as transactions of many statements (`sessionMachine`) have the results
of the same calls as atomic functions (`SessionCall.exec`), one after the other, each at its own `now()`: a call that
writes takes its place when its transaction commits, any other when its last statement has read the rows.  The one
condition is that a `touch` finds the session it has read still active when it gets the row lock, since its `UPDATE`
does not check again; and `revoke_all`, which locks many rows one by one, does not take part.
-/

namespace CleanBackend

/-- The calls one after the other, from an empty table. -/
def serial (ids : IdentityTables) (L : List (Tid × (Int × SessionCall))) : Database × List (Tid × SessionReply) :=
  Linearization.replay (fun db c => c.2.exec db c.1) (.empty ids) L

/-- A `touch` that gets its row finds the session active. -/
def SessionTxn.touchesActive (x : SessionTxn) (s : Store Tid UserSession) (tid : Tid) : Bool :=
  match x.phase, x.call with
  | .locking id, .touch _ _ =>
    match s.access UserSession.id tid id with
    | .free row | .mine row => decide (row.Live x.now)
    | _ => true
  | _, _ => true

/-- The step starts no `revoke_all`, and a `touch` that gets its row finds the session active. -/
def Orderly (s : SessionState) : SessionAction → Prop
  | .start _ call => call.isRevokeAll = false
  | .exec tid => (s.txns tid).all (·.touchesActive s.sessions tid)
  | _ => True

instance (s : SessionState) : (a : SessionAction) → Decidable (Orderly s a)
  | .start _ call => inferInstanceAs (Decidable (call.isRevokeAll = false))
  | .exec tid => inferInstanceAs (Decidable ((s.txns tid).all (·.touchesActive s.sessions tid) = true))
  | .tick _ | .visit _ _ | .abort _ => inferInstanceAs (Decidable True)

/-- `L` is an order of atomic calls with the results of the run: its calls are those of transactions that have
started, each once; they leave the committed rows; and a committed transaction has its reply from them. -/
structure LinearizedBy (s : SessionState) (L : List (Tid × (Int × SessionCall))) : Prop where
  started : ∀ t now call, (t, now, call) ∈ L → ∃ x, s.txns t = some x ∧ x.now = now ∧ x.call = call
  once : (L.map Prod.fst).Nodup
  rows : (serial s.ids L).1.userSessions.Perm s.sessions.rows
  replies : ∀ t x reply, s.txns t = some x → x.phase = .committed reply → (t, reply) ∈ (serial s.ids L).2

private theorem serial_ids (ids : IdentityTables) (L : List (Tid × (Int × SessionCall))) :
    (serial ids L).1.toIdentityTables = ids :=
  Linearization.replay_induction (P := fun db : Database => db.toIdentityTables = ids)
    (fun db c h => (c.2.exec_ids_eq db c.1).trans h) rfl L

/-! ### How far a call is -/

/-- The reply of the call of `t` in the list, if it is there. -/
def Listed (ids : IdentityTables) (L : List (Tid × (Int × SessionCall))) (t : Tid) : Option SessionReply → Prop
  | none => t ∉ L.map Prod.fst
  | some reply => (t, reply) ∈ (serial ids L).2

/-- What a transaction holds in each phase, and whether its call has its place in the list. -/
inductive Progress (ids : IdentityTables) (S : Store Tid UserSession) (t : Tid) (x : SessionTxn) :
    Option SessionReply → Prop where
  | started (hp : x.phase = .start) (hc : x.call.isRevokeAll = false) (ho : S.Owns t none none) :
    Progress ids S t x none
  | wanting {r} (hp : x.phase = .locking r.id) (hr : r ∈ S.rows) (hw : x.call.wants = some r.tokenHash)
      (ho : S.Owns t none none) : Progress ids S t x none
  | creating {id a} (hp : x.phase = .inserting (a.row id x.now) none) (hc : x.call = .create id a)
      (ht : ids.activeTenant a.tenantId) (hm : ids.activeMember a.userId a.tenantId) (ho : S.Owns t none none) :
      Progress ids S t x none
  | rotating {id a old} (hp : x.phase = .inserting (a.row id x.now old) (some old)) (hc : x.call = .rotate id a)
      (hh : old.tokenHash = a.oldTokenHash) (hl : old.Live x.now) (ho : S.Owns t (some (old, old)) none) :
      Progress ids S t x none
  | revokingOld {id a old} (hp : x.phase = .revokingOld old (a.row id x.now old)) (hc : x.call = .rotate id a)
      (hh : old.tokenHash = a.oldTokenHash) (hl : old.Live x.now) (hok : (a.row id x.now old).Storable ids)
      (ho : S.Owns t (some (old, old)) (some (a.row id x.now old))) : Progress ids S t x none
  | created {id a} (hp : x.phase = .returned (.created (a.row id x.now).created)) (hc : x.call = .create id a)
      (ht : ids.activeTenant a.tenantId) (hm : ids.activeMember a.userId a.tenantId)
      (hok : (a.row id x.now).Storable ids) (ho : S.Owns t none (some (a.row id x.now))) : Progress ids S t x none
  | rotated {id a old} (hp : x.phase = .returned (.created (a.row id x.now old).created)) (hc : x.call = .rotate id a)
      (hh : old.tokenHash = a.oldTokenHash) (hl : old.Live x.now) (hok : (a.row id x.now old).Storable ids)
      (ho : S.Owns t (some (old, (SessionUpdate.revoke x.now).set old)) (some (a.row id x.now old))) :
      Progress ids S t x none
  | touched {h idleTtl r}
      (hp : x.phase = .returned (.touched ((SessionUpdate.slide x.now idleTtl).set r).idleExpiresAt))
      (hc : x.call = .touch h idleTtl) (hh : r.tokenHash = h) (hl : r.Live x.now)
      (ho : S.Owns t (some (r, (SessionUpdate.slide x.now idleTtl).set r)) none) : Progress ids S t x none
  | revoked {h r} (hp : x.phase = .returned .revoked) (hc : x.call = .revoke h) (hh : r.tokenHash = h)
      (hu : r.revokedAt = none) (ho : S.Owns t (some (r, (SessionUpdate.revoke x.now).set r)) none) :
      Progress ids S t x none
  | settled {reply} (lock : Option UserSession) (hp : x.phase = .returned reply)
      (ho : S.Owns t (lock.map fun r => (r, r)) none) : Progress ids S t x (some reply)
  | committed {reply} (hp : x.phase = .committed reply) : Progress ids S t x (some reply)
  | rolledBack {cause listed} (hp : x.phase = .rolledBack cause) : Progress ids S t x listed

/-- The statements of another transaction leave a call where it is. -/
private theorem Progress.frame {ids : IdentityTables} {S : Store Tid UserSession} {t tid : Tid} {x : SessionTxn}
    {listed : Option SessionReply} (h : Progress ids S t x listed) (hne : t ≠ tid) {e : SessionEffect}
    (hrows : ∀ r ∈ S.rows, ∃ r' ∈ (S.after tid e).rows, r.Evolves r') : Progress ids (S.after tid e) t x listed := by
  cases h with
  | started hp hc ho => exact .started hp hc (ho.of_ne hne e)
  | wanting hp hr hw ho =>
    -- the row it wants may be a later version by now
    obtain ⟨r', hr', he⟩ := hrows _ hr
    exact .wanting (he.id ▸ hp) hr' (he.tokenHash ▸ hw) (ho.of_ne hne e)
  | creating hp hc ht hm ho => exact .creating hp hc ht hm (ho.of_ne hne e)
  | rotating hp hc hh hl ho => exact .rotating hp hc hh hl (ho.of_ne hne e)
  | revokingOld hp hc hh hl hok ho => exact .revokingOld hp hc hh hl hok (ho.of_ne hne e)
  | created hp hc ht hm hok ho => exact .created hp hc ht hm hok (ho.of_ne hne e)
  | rotated hp hc hh hl hok ho => exact .rotated hp hc hh hl hok (ho.of_ne hne e)
  | touched hp hc hh hl ho => exact .touched hp hc hh hl (ho.of_ne hne e)
  | revoked hp hc hh hu ho => exact .revoked hp hc hh hu (ho.of_ne hne e)
  | settled lock hp ho => exact .settled lock hp (ho.of_ne hne e)
  | committed hp => exact .committed hp
  | rolledBack hp => exact .rolledBack hp

private theorem Progress.ne_visiting {ids : IdentityTables} {S : Store Tid UserSession} {t : Tid} {x : SessionTxn}
    {listed : Option SessionReply} (h : Progress ids S t x listed) (todo : List Uuid) (count : Nat) :
    x.phase ≠ .visiting todo count := by
  intro hv
  cases h with
  | started hp | wanting hp | creating hp | rotating hp | revokingOld hp | created hp | rotated hp | touched hp
  | revoked hp | settled lock hp | committed hp | rolledBack hp => cases hp.symm.trans hv

/-- A committed call has its place. -/
private theorem Progress.listed_of_committed {ids : IdentityTables} {S : Store Tid UserSession} {t : Tid}
    {x : SessionTxn} {listed : Option SessionReply} (h : Progress ids S t x listed) {reply : SessionReply}
    (hc : x.phase = .committed reply) : listed = some reply := by
  cases h with
  | started hp | wanting hp | creating hp | rotating hp | revokingOld hp | created hp | rotated hp | touched hp
  | revoked hp | settled lock hp | rolledBack hp => cases hp.symm.trans hc
  | committed hp =>
    cases hp.symm.trans hc
    rfl

/-! ### The list so far -/

/-- The list of the calls that have their place, and how far every call is. -/
structure Linear (s : SessionState) (L : List (Tid × (Int × SessionCall))) : Prop where
  inv : RotationInv s
  rows : (serial s.ids L).1.Mirrors s.ids s.sessions.rows
  once : (L.map Prod.fst).Nodup
  started : ∀ t now call, (t, now, call) ∈ L → ∃ x, s.txns t = some x ∧ x.now = now ∧ x.call = call
  txns : ∀ t x, s.txns t = some x → ∃ listed, Listed s.ids L t listed ∧ Progress s.ids s.sessions t x listed

namespace Linear

variable {s s' : SessionState} {L : List (Tid × (Int × SessionCall))} {tid : Tid} {x : SessionTxn} {e : SessionEffect}

private theorem init (ids : IdentityTables) (clock : Int) : Linear (.init ids clock) [] where
  inv := .init ids clock
  rows := ⟨rfl, fun _ => Iff.rfl⟩
  once := List.nodup_nil
  started _ _ _ hm := (List.not_mem_nil hm).elim
  txns _ _ hx := by cases hx

private theorem fresh (h : Linear s L) (hn : s.txns tid = none) : tid ∉ L.map Prod.fst := by
  intro hm
  obtain ⟨⟨t, now, call⟩, hmem, rfl⟩ := List.mem_map.1 hm
  obtain ⟨x, hx, -⟩ := h.started t now call hmem
  cases hn.symm.trans hx

private theorem tick (h : Linear s L) (d : Nat) : Linear { s with clock := s.clock + d } L where
  inv := h.inv.step (a := .tick d) rfl
  rows := h.rows
  once := h.once
  started := h.started
  txns := h.txns

private theorem start (h : Linear s L) (hn : s.txns tid = none) {call : SessionCall} (hc : call.isRevokeAll = false) :
    Linear (s.put tid ⟨s.clock, call, .start, none, []⟩) L where
  inv := h.inv.begin hn call
  rows := h.rows
  once := h.once
  started t now c hm := by
    obtain ⟨x, hx, hs⟩ := h.started t now c hm
    have ht : t ≠ tid := fun he => h.fresh hn (he ▸ List.mem_map_of_mem hm)
    exact ⟨x, (SessionState.put_txns_of_ne _ _ _ ht).trans hx, hs⟩
  txns t y hy := by
    by_cases ht : t = tid
    · subst ht
      rw [SessionState.put_txns_self] at hy
      cases hy
      refine ⟨none, h.fresh hn, .started rfl hc (.none_of_fresh (fun r d hm => ?_) fun n hm => ?_)⟩
      · obtain ⟨-, x, hx, -⟩ := h.inv.locks r t d hm
        cases hn.symm.trans hx
      · obtain ⟨x, hx, -⟩ := h.inv.pendings t n hm
        cases hn.symm.trans hx
    · rw [SessionState.put_txns_of_ne _ _ _ ht] at hy
      exact h.txns t y hy

/-- What a step leaves to show: the list with its rows, and the call that made the step. -/
private theorem apply {L' : List (Tid × (Int × SessionCall))} (h : Linear s L) (hx : s.txns tid = some x)
    (hs : Statement s.ids s.sessions tid x e) (hrows : (serial s.ids L').1.Mirrors s.ids
      (s.sessions.after tid e).rows)
    (honce : (L'.map Prod.fst).Nodup) (hmem : ∀ c ∈ L', c ∈ L ∨ c = (tid, x.now, x.call))
    (hlisted : ∀ t ≠ tid, ∀ listed, Listed s.ids L t listed → Listed s.ids L' t listed)
    (hself : ∃ listed, Listed s.ids L' tid listed ∧ Progress s.ids (s.sessions.after tid e) tid (x.after e) listed) :
    Linear (s.apply tid x e) L' where
  inv := h.inv.apply hx hs
  rows := hrows
  once := honce
  started t now call hm := by
    rcases hmem _ hm with hm | he
    · obtain ⟨y, hy, hs⟩ := h.started t now call hm
      by_cases ht : t = tid
      · subst ht
        cases hx.symm.trans hy
        exact ⟨x.after e, SessionState.apply_txns_self .., by simpa using hs⟩
      · exact ⟨y, (SessionState.apply_txns_of_ne _ _ _ _ ht).trans hy, hs⟩
    · cases he
      exact ⟨x.after e, SessionState.apply_txns_self .., by simp⟩
  txns t y hy := by
    by_cases ht : t = tid
    · subst ht
      rw [SessionState.apply_txns_self] at hy
      cases hy
      exact hself
    · rw [SessionState.apply_txns_of_ne _ _ _ _ ht] at hy
      obtain ⟨listed, hl, hp⟩ := h.txns t y hy
      exact ⟨listed, hlisted t ht listed hl, hp.frame ht fun r hr => h.inv.rows_evolve tid e hr⟩

/-- A step that leaves the list as it is. -/
private theorem quiet (h : Linear s L) (hx : s.txns tid = some x) (hs : Statement s.ids s.sessions tid x e)
    (hrows : ∀ r, r ∈ (s.sessions.after tid e).rows ↔ r ∈ s.sessions.rows) {listed : Option SessionReply}
    (hl : Listed s.ids L tid listed) (hp : Progress s.ids (s.sessions.after tid e) tid (x.after e) listed) :
    ∃ L', Linear (s.apply tid x e) (L ++ L') := by
  refine ⟨[], ?_⟩
  rw [List.append_nil]
  exact h.apply hx hs ⟨h.rows.ids, fun r => (h.rows.rows r).trans (hrows r).symm⟩ h.once (fun c => Or.inl)
    (fun _ _ _ => id) ⟨listed, hl, hp⟩

/-- A step at which the call takes its place. -/
private theorem takes (h : Linear s L) (hx : s.txns tid = some x) (hs : Statement s.ids s.sessions tid x e)
    (hl : Listed s.ids L tid none) {reply : SessionReply}
    (hw : x.Writes (serial s.ids L).1 reply (· ∈ (s.sessions.after tid e).rows))
    (hp : Progress s.ids (s.sessions.after tid e) tid (x.after e) (some reply)) :
    ∃ L', Linear (s.apply tid x e) (L ++ L') := by
  have hserial : serial s.ids (L ++ [(tid, x.now, x.call)]) =
      ((x.atomic (serial s.ids L).1).1, (serial s.ids L).2 ++ [(tid, (x.atomic (serial s.ids L).1).2)]) :=
    Linearization.replay_snoc _ L tid (x.now, x.call)
  refine ⟨[(tid, x.now, x.call)], h.apply hx hs ⟨serial_ids .., fun r => ?_⟩ ?_ (fun c hc => ?_)
    (fun t ht listed hl => ?_) ⟨some reply, ?_, hp⟩⟩
  · rw [hserial]
    exact hw.2 r
  · rw [List.map_append]
    refine List.nodup_append.2 ⟨h.once, List.nodup_singleton tid, fun t ht u hu he => hl ?_⟩
    have hu : u = tid := List.mem_singleton.1 hu
    rwa [← hu, ← he]
  · exact (List.mem_append.1 hc).imp_right List.mem_singleton.1
  · cases listed with
    | none =>
      intro hm
      rw [List.map_append] at hm
      rcases List.mem_append.1 hm with hm | hm
      · exact hl hm
      · exact ht (List.mem_singleton.1 hm)
    | some reply' =>
      show _ ∈ (serial s.ids (L ++ [(tid, x.now, x.call)])).2
      rw [hserial]
      exact List.mem_append_left _ hl
  · show _ ∈ (serial s.ids (L ++ [(tid, x.now, x.call)])).2
    rw [hserial, hw.1]
    exact List.mem_append_right _ List.mem_cons_self

/-- A step that answers from the rows as they are. -/
private theorem answers (h : Linear s L) (hx : s.txns tid = some x) (hs : Statement s.ids s.sessions tid x e)
    (hrows : ∀ r, r ∈ (s.sessions.after tid e).rows ↔ r ∈ s.sessions.rows) (hl : Listed s.ids L tid none)
    {reply : SessionReply} (hr : x.Reads (serial s.ids L).1 reply) (lock : Option UserSession)
    (hp : (x.after e).phase = .returned reply)
    (ho : (s.sessions.after tid e).Owns tid (lock.map fun r => (r, r)) none) :
    ∃ L', Linear (s.apply tid x e) (L ++ L') :=
  h.takes hx hs hl ⟨hr.1, fun r => (hr.2 r).trans ((h.rows.rows r).trans (hrows r).symm)⟩ (.settled lock hp ho)

/-! ### The statements -/

private theorem step_started (h : Linear s L) (hx : s.txns tid = some x) (hl : Listed s.ids L tid none)
    (hc : x.call.isRevokeAll = false) (ho : s.sessions.Owns tid none none)
    (hs : Statement s.ids s.sessions tid x (.goto (x.begin s.ids s.sessions.rows))) :
    ∃ L', Linear (s.apply tid x (.goto (x.begin s.ids s.sessions.rows))) (L ++ L') := by
  have hbegin := SessionTxn.begin_begins (x := x) h.rows hc
  generalize x.begin s.ids s.sessions.rows = phase at hbegin hs
  cases hbegin with
  | reads hr => exact h.answers hx hs (fun _ => Iff.rfl) hl hr none rfl ho
  | wants hr hw => exact h.quiet hx hs (fun _ => Iff.rfl) hl (.wanting rfl hr hw ho)
  | creates hc ht hm =>
    refine h.quiet hx hs (fun _ => Iff.rfl) hl (.creating rfl hc ?_ ?_ ho)
    · rwa [← h.rows.ids]
    · rwa [← h.rows.ids]

private theorem step_wanting (h : Linear s L) (hx : s.txns tid = some x) (hl : Listed s.ids L tid none)
    {r : UserSession} (hp : x.phase = .locking r.id) (hr : r ∈ s.sessions.rows) (hw : x.call.wants = some r.tokenHash)
    (ho : s.sessions.Owns tid none none) (hactive : x.touchesActive s.sessions tid)
    (hs : Statement s.ids s.sessions tid x e) (hnext : s.sessions.onLock tid r.id (x.onRow r.id) = some e) :
    ∃ L', Linear (s.apply tid x e) (L ++ L') := by
  rcases Store.onLock_cases hnext with ⟨row, hlatest, hgo⟩ | ⟨owner, -, rfl⟩
  · obtain ⟨hfree, hid⟩ := ho.latest hlatest
    cases h.inv.ids.rows_eq (Store.mem_rows.2 ⟨_, hfree⟩) hr hid
    have htouch : ∀ k idleTtl, x.call = .touch k idleTtl → r.Live x.now := by
      intro k idleTtl hc
      unfold SessionTxn.touchesActive at hactive
      rw [hp, hc] at hactive
      dsimp only at hactive
      rcases hlatest with ha | ha <;> rw [ha] at hactive <;> exact of_decide_eq_true hactive
    have hown : ∀ f : UserSession → UserSession,
        (s.sessions.write UserSession.id tid r.id f).Owns tid (some (r, f r)) none :=
      ho.write_free h.inv.ids hfree
    have hrows : ∀ f : UserSession → UserSession, ∀ r', r' ∈ (s.sessions.write UserSession.id tid r.id f).rows ↔
        r' ∈ s.sessions.rows := fun f r' => by rw [Store.rows_write]
    cases SessionTxn.onRow_meets h.rows hr hw htouch hgo with
    | skips hread => exact h.answers hx hs (fun _ => Iff.rfl) hl hread none rfl ho
    | locks hread => exact h.answers hx hs (hrows _) hl hread (some r) rfl (hown _)
    | rotates hc hh hlive => exact h.quiet hx hs (hrows _) hl (.rotating rfl hc hh hlive (hown _))
    | slides hc hh hlive => exact h.quiet hx hs (hrows _) hl (.touched rfl hc hh hlive (hown _))
    | revokes hc hh hu => exact h.quiet hx hs (hrows _) hl (.revoked rfl hc hh hu (hown _))
  · exact h.quiet hx hs (fun _ => Iff.rfl) hl (.wanting hp hr hw ho)

private theorem rollback (h : Linear s L) (hx : s.txns tid = some x) {cause : Option SqlError}
    (hs : Statement s.ids s.sessions tid x (.rollback cause)) :
    ∃ L', Linear (s.apply tid x (.rollback cause)) (L ++ L') := by
  have hrows : ∀ r, r ∈ (s.sessions.after tid (.rollback cause)).rows ↔ r ∈ s.sessions.rows := fun r => by
    rw [Store.rows_after (e := .rollback cause) fun reply he => by cases he]
  obtain ⟨listed, hl, -⟩ := h.txns tid x hx
  exact h.quiet hx hs hrows hl (.rolledBack rfl)

private theorem step_inserting (h : Linear s L) (hx : s.txns tid = some x) {new : UserSession}
    {old : Option UserSession} (hl : Listed s.ids L tid none) (hs : Statement s.ids s.sessions tid x e)
    (hnext : s.sessions.insertRow s.ids tid new old = some e)
    (hp : new.Storable s.ids → e = .insert new (old.elim (.returned (.created new.created)) (.revokingOld · new)) →
      Progress s.ids (s.sessions.insert tid new) tid (x.after e) none) : ∃ L',
        Linear (s.apply tid x e) (L ++ L') := by
  rcases Store.insertRow_cases hnext with ⟨err, rfl⟩ | ⟨hok, he⟩
  · exact h.rollback hx hs
  · have hp := hp hok he
    subst he
    exact h.quiet hx hs (fun r => by rw [Store.rows_after fun reply he => by cases he]) hl hp

/-- A row that `tid` has inserted has keys of its own. -/
private theorem pending_fresh (h : Linear s L) {n : UserSession} (hn : .pending tid n ∈ s.sessions) :
    (∀ r ∈ (serial s.ids L).1.userSessions, r.id ≠ n.id) ∧
      ∀ r ∈ (serial s.ids L).1.userSessions, r.tokenHash ≠ n.tokenHash := by
  refine ⟨fun r hr he => ?_, fun r hr he => ?_⟩
  · obtain ⟨lock, hm⟩ := Store.mem_rows.1 ((h.rows.rows r).1 hr)
    cases h.inv.ids.eq_of_key hm hn he
  · obtain ⟨lock, hm⟩ := Store.mem_rows.1 ((h.rows.rows r).1 hr)
    cases h.inv.hashes.eq_of_key hm hn he

/-- The row that `tid` has locked is a committed one. -/
private theorem locked_row (h : Linear s L) {r d : UserSession} {new : Option UserSession}
    (ho : s.sessions.Owns tid (some (r, d)) new) : (serial s.ids L).1.sessionOf r.tokenHash = some r :=
  h.rows.sessionOf_of_mem (Store.mem_rows.2 ⟨_, (ho.locks r d).2 rfl⟩) rfl

private theorem step_commit (h : Linear s L) (hx : s.txns tid = some x) {reply : SessionReply}
    {listed : Option SessionReply} (hphase : x.phase = .returned reply) (hl : Listed s.ids L tid listed)
    (hp : Progress s.ids s.sessions tid x listed) (hs : Statement s.ids s.sessions tid x (.commit reply)) :
    ∃ L', Linear (s.apply tid x (.commit reply)) (L ++ L') := by
  have hids := h.rows.ids
  have hsame : ∀ r, r ∈ (serial s.ids L).1.userSessions ↔ r ∈ s.sessions.rows := h.rows.rows
  cases hp with
  | started hp | wanting hp | creating hp | rotating hp | revokingOld hp | committed hp | rolledBack hp =>
    cases hp.symm.trans hphase
  | settled lock hp ho =>
    cases hp.symm.trans hphase
    -- a call that wrote nothing took effect when it read
    exact h.quiet hx hs (ho.mem_rows_commit_same h.inv.ids) hl (.committed rfl)
  | created hp hc ht hm hok ho =>
    cases hp.symm.trans hphase
    obtain ⟨hid, hhash⟩ := h.pending_fresh ((ho.pendings _).2 rfl)
    rw [← hids] at ht hm hok
    -- the others take effect here
    refine h.takes hx hs hl ((SessionTxn.writes_create hc ht hm hok hid hhash).of_iff fun r => ?_) (.committed rfl)
    exact (ho.mem_rows_commit_none h.inv.ids r).trans (by rw [hsame, Option.some_inj, eq_comm])
  | rotated hp hc hh hlive hok ho =>
    cases hp.symm.trans hphase
    obtain ⟨hid, hhash⟩ := h.pending_fresh ((ho.pendings _).2 rfl)
    rw [← hids] at hok
    have hold := hh ▸ h.locked_row ho
    refine h.takes hx hs hl ((SessionTxn.writes_rotate hc hold hlive hok hid hhash).of_iff fun r => ?_)
      (.committed rfl)
    refine (ho.mem_rows_commit_some h.inv.ids ((SessionUpdate.revoke x.now).id_eq _) r).trans ?_
    rw [hsame, Option.some_inj, eq_comm (b := r), or_comm (a := r = (SessionUpdate.revoke x.now).set _)]
  | touched hp hc hh hlive ho =>
    cases hp.symm.trans hphase
    have hr := hh ▸ h.locked_row ho
    refine h.takes hx hs hl ((SessionTxn.writes_touch hc hr hlive).of_iff fun r => ?_) (.committed rfl)
    refine (ho.mem_rows_commit_some h.inv.ids ((SessionUpdate.slide x.now _).id_eq _) r).trans ?_
    rw [hsame, or_iff_left (a := r = _) fun he => by cases he]
  | revoked hp hc hh hu ho =>
    cases hp.symm.trans hphase
    have hr := hh ▸ h.locked_row ho
    refine h.takes hx hs hl ((SessionTxn.writes_revoke hc hr hu).of_iff fun r => ?_) (.committed rfl)
    refine (ho.mem_rows_commit_some h.inv.ids ((SessionUpdate.revoke x.now).id_eq _) r).trans ?_
    rw [hsame, or_iff_left (a := r = _) fun he => by cases he]

/-- The next statement of a transaction. -/
private theorem step_exec (h : Linear s L) (hx : s.txns tid = some x) (hactive : x.touchesActive s.sessions tid)
    (hnext : x.next s.ids s.sessions tid = some e) : ∃ L', Linear (s.apply tid x e) (L ++ L') := by
  have hs := Statement.of_next hnext
  obtain ⟨listed, hl, hprogress⟩ := h.txns tid x hx
  have hprogress' := hprogress
  unfold SessionTxn.next at hnext
  cases hprogress with
  | started hp hc ho =>
    rw [hp] at hnext
    cases hnext
    exact h.step_started hx hl hc ho hs
  | wanting hp hr hw ho =>
    rw [hp] at hnext
    exact h.step_wanting hx hl hp hr hw ho hactive hs hnext
  | creating hp hc ht hm ho =>
    rw [hp] at hnext
    refine h.step_inserting hx hl hs hnext fun hok he => ?_
    subst he
    exact .created rfl hc ht hm hok (ho.insert _)
  | rotating hp hc hh hlive ho =>
    rw [hp] at hnext
    refine h.step_inserting hx hl hs hnext fun hok he => ?_
    subst he
    exact .revokingOld rfl hc hh hlive hok (ho.insert _)
  | revokingOld hp hc hh hlive hok ho =>
    rw [hp] at hnext
    cases hnext
    refine h.quiet hx hs (fun r => by rw [Store.rows_after fun reply he => by cases he]) hl
      (.rotated rfl hc hh hlive hok (ho.write_locked h.inv.ids (fun n hn he => ?_) _))
    cases h.inv.ids.eq_of_key ((ho.pendings n).2 hn) ((ho.locks _ _).2 rfl) he
  | created hp | rotated hp | touched hp | revoked hp | settled lock hp =>
    rw [hp] at hnext
    cases hnext
    exact h.step_commit hx hp hl hprogress' hs
  | committed hp | rolledBack hp =>
    rw [hp] at hnext
    cases hnext

/-- No transaction scans. -/
private theorem not_visit (h : Linear s L) (hx : s.txns tid = some x) (id : Uuid) :
    x.visit s.sessions tid id = none := by
  obtain ⟨listed, -, hprogress⟩ := h.txns tid x hx
  unfold SessionTxn.visit
  split
  · rename_i hv
    exact absurd hv (hprogress.ne_visiting _ _)
  · rfl

private theorem step {a : SessionAction} (h : Linear s L) (hc : Orderly s a)
    (hs : sessionMachine.step s a = some s') :
    ∃ L', Linear s' (L ++ L') := by
  cases a with
  | tick d =>
    cases hs
    exact ⟨[], by rw [List.append_nil]; exact h.tick d⟩
  | start t call =>
    simp only [sessionMachine] at hs
    split at hs
    · rename_i hn
      cases hs
      exact ⟨[], by rw [List.append_nil]; exact h.start hn hc⟩
    · cases hs
  | exec t =>
    obtain ⟨x, hx, hs⟩ := Option.bind_eq_some_iff.1 hs
    obtain ⟨e, he, rfl⟩ := Option.map_eq_some_iff.1 hs
    have hactive : (s.txns t).all (·.touchesActive s.sessions t) := hc
    rw [hx] at hactive
    exact h.step_exec hx hactive he
  | visit t id =>
    obtain ⟨x, hx, hs⟩ := Option.bind_eq_some_iff.1 hs
    rw [h.not_visit hx id] at hs
    cases hs
  | abort t =>
    obtain ⟨x, hx, hs⟩ := Option.bind_eq_some_iff.1 hs
    split at hs
    · cases hs
    · rename_i hf
      cases hs
      exact h.rollback hx (.aborts (by simpa using hf))

private theorem linearizedBy (h : Linear s L) : LinearizedBy s L where
  started := h.started
  once := h.once
  rows := by
    refine (List.perm_ext_iff_of_nodup ?_ ?_).2 h.rows.rows
    · exact .of_map _ (serial s.ids L).1.sessions_pkey
    · exact .of_map _ h.inv.ids.uniqueBy_rows
  replies t x reply hx hp := by
    obtain ⟨listed, hl, hprogress⟩ := h.txns t x hx
    cases hprogress.listed_of_committed hp
    exact hl

end Linear

/-- The transactions of a run have the results of atomic calls in one order, to which each step may add at the end:
after any number of steps, the calls so far are an order for the run so far.  So a call that has committed when
another one starts comes before it. -/
theorem session_calls_linearizable {ids : IdentityTables} {clock : Int} {as : List SessionAction} {s : SessionState}
    (hs : sessionMachine.run (.init ids clock) as = some s) (hc : sessionMachine.Along Orderly (.init ids clock) as) :
    ∃ Ls : List (List (Tid × (Int × SessionCall))), Ls.length = as.length ∧
      ∀ k t, sessionMachine.run (.init ids clock) (as.take k) = some t → LinearizedBy t (Ls.take k).flatten := by
  have hstep : ∀ s a s' L, Linear s L → Orderly s a → sessionMachine.step s a = some s' → ∃ L', Linear s' (L ++ L') :=
    fun _ _ _ _ h hc hst => h.step hc hst
  obtain ⟨Ls, hlength, hparts⟩ := Linearization.exists_replay hstep hs hc (.init ids clock)
  exact ⟨Ls, hlength, fun k t ht => (hparts k t ht).linearizedBy⟩

/-- A login. -/
def oneLogin : List SessionAction := [.start 0 (.create 100 (loginArgs 1)), .exec 0, .exec 0, .exec 0]

/-- A `touch`, a rotation that waits for it, and a `get` of the session before either commits. -/
def touchRace : List SessionAction :=
  [.start 1 (.touch (hashOf 1) 1000), .start 2 (.rotate 101 (rotationArgs 1 2)), .start 3 (.get (hashOf 1)), .exec 1,
    .exec 2, .exec 1, .exec 2, .exec 3, .exec 1, .exec 2, .exec 2, .exec 2, .exec 2, .exec 3]

theorem session_calls_linearizable_race :
    ∃ s, sessionMachine.run (.init oneMember 0) (oneLogin ++ touchRace) = some s ∧
      ∃ Ls : List (List (Tid × (Int × SessionCall))), Ls.length = (oneLogin ++ touchRace).length ∧
        ∀ k t, sessionMachine.run (.init oneMember 0) ((oneLogin ++ touchRace).take k) = some t →
          LinearizedBy t (Ls.take k).flatten := by
  have hrun : (sessionMachine.run (.init oneMember 0) (oneLogin ++ touchRace)).isSome := by decide
  obtain ⟨s, hs⟩ := Option.isSome_iff_exists.1 hrun
  exact ⟨s, hs, session_calls_linearizable hs (by decide)⟩

end CleanBackend
