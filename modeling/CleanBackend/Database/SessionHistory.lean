import CleanBackend.Database.SessionFunctions
import Mathlib.Data.Set.Card

/-!
# Sessions and their history

What a session token is worth is a matter of its history: which calls were made, when, and which of them succeeded.
`ValidAt H h t` reads it off the history alone.  `Tracks` ties the stored row of `h` to the history, and every call
keeps it (`tracks_exec`), so that `get_user_session` and `revoke_all_user_sessions` answer what the history says
(`session_validity`).

Histories are listed latest first.
-/

namespace CleanBackend

structure SessionEvent where
  time : Int
  call : SessionCall
  reply : SessionReply

abbrev History := List SessionEvent

/-- The history and the database after a list of calls, each at its time. -/
def play (db : Database) (H : History) : List (Int × SessionCall) → Database × History
  | [] => (db, H)
  | (time, call) :: calls =>
    let (db', reply) := call.exec db time
    play db' (⟨time, call, reply⟩ :: H) calls

/-! ### What the history says -/

def SessionReply.isCreated : SessionReply → Bool
  | .created _ => true
  | _ => false

/-- A successful `create` of `h` or a successful `rotate` into `h`. -/
def SessionEvent.Inserts (e : SessionEvent) (h : Bytea) : Prop :=
  match e.call with
  | .create _ a => a.tokenHash = h ∧ e.reply.isCreated
  | .rotate _ a => a.newTokenHash = h ∧ e.reply.isCreated
  | _ => False

def Inserted (H : History) (h : Bytea) : Prop := ∃ e ∈ H, e.Inserts h

/-- The idle TTL of a successful `create`, `rotate` into or `touch` of `h`. -/
def SessionEvent.use (e : SessionEvent) (h : Bytea) : Option Int :=
  match e.call, e.reply with
  | .create _ a, .created _ => if a.tokenHash = h then some a.idleTtl else none
  | .rotate _ a, .created _ => if a.newTokenHash = h then some a.idleTtl else none
  | .touch h' idleTtl, .touched _ => if h' = h then some idleTtl else none
  | _, _ => none

/-- The time and the idle TTL of the latest use of `h`. -/
def lastUse : History → Bytea → Option (Int × Int)
  | [], _ => none
  | e :: H, h =>
    match e.use h with
    | some idleTtl => some (e.time, idleTtl)
    | none => lastUse H h

/-- The `create` that started the rotation chain of `h`, and its time. -/
def chainStart : History → Bytea → Option (Int × CreateArgs)
  | [], _ => none
  | e :: H, h =>
    match e.call, e.reply with
    | .create _ a, .created _ => if a.tokenHash = h then some (e.time, a) else chainStart H h
    | .rotate _ a, .created _ => if a.newTokenHash = h then chainStart H a.oldTokenHash else chainStart H h
    | _, _ => chainStart H h

def OwnedBy (H : History) (h : Bytea) (userId tenantId : Uuid) : Prop :=
  ∃ start a, chainStart H h = some (start, a) ∧ a.userId = userId ∧ a.tenantId = tenantId

/-- Before the absolute expiry of the chain and within the idle TTL of the latest use. -/
def Unexpired (H : History) (h : Bytea) (t : Int) : Prop :=
  ∃ start a last idleTtl, chainStart H h = some (start, a) ∧ lastUse H h = some (last, idleTtl) ∧
    t < start + a.absoluteTtl ∧ t < last + idleTtl

/-- Since its insertion `h` was revoked, rotated away, or valid at a `revoke_all` of its user and tenant. -/
def Retired : History → Bytea → Prop
  | [], _ => False
  | e :: H, h => Retired H h ∨ Inserted H h ∧
    match e.call with
    | .revoke h' => h' = h
    | .rotate _ a => a.oldTokenHash = h ∧ e.reply.isCreated
    | .revokeAll userId tenantId => OwnedBy H h userId tenantId ∧ ¬ Retired H h ∧ Unexpired H h e.time
    | _ => False

def ValidAt (H : History) (h : Bytea) (t : Int) : Prop := Inserted H h ∧ ¬ Retired H h ∧ Unexpired H h t

/-! ### The stored row -/

/-- The row of an inserted token, as the history determines it. -/
structure TracksRow (H : History) (h : Bytea) (s : UserSession) : Prop where
  inserted : Inserted H h
  revoked : s.revokedAt.isSome ↔ Retired H h
  expiry : ∃ start a last idleTtl, chainStart H h = some (start, a) ∧ lastUse H h = some (last, idleTtl) ∧
    s.userId = a.userId ∧ s.tenantId = a.tenantId ∧ s.absoluteExpiresAt = start + a.absoluteTtl ∧
    s.idleExpiresAt = min (last + idleTtl) (start + a.absoluteTtl)

def Tracks (H : History) (h : Bytea) : Option UserSession → Prop
  | none => ¬ Inserted H h
  | some s => TracksRow H h s

private theorem Tracks.inserted_iff {H : History} {h : Bytea} {o : Option UserSession} (ht : Tracks H h o) :
    Inserted H h ↔ o.isSome := by
  cases o with
  | none => simpa [Tracks] using ht
  | some s => simpa using TracksRow.inserted ht

private theorem unexpired_iff {H : History} {h : Bytea} {s : UserSession} (ht : TracksRow H h s) (t : Int) :
    Unexpired H h t ↔ t < s.absoluteExpiresAt ∧ t < s.idleExpiresAt := by
  obtain ⟨start, a, last, idleTtl, hs, hl, -, -, ha, hi⟩ := ht.expiry
  rw [ha, hi]
  constructor
  · rintro ⟨start', a', last', idleTtl', hs', hl', h₁, h₂⟩
    rw [hs] at hs'; rw [hl] at hl'; cases hs'; cases hl'
    omega
  · intro ⟨h₁, h₂⟩
    exact ⟨start, a, last, idleTtl, hs, hl, h₁, by omega⟩

private theorem ownedBy_iff {H : History} {h : Bytea} {s : UserSession} (ht : TracksRow H h s)
    (userId tenantId : Uuid) : OwnedBy H h userId tenantId ↔ s.userId = userId ∧ s.tenantId = tenantId := by
  obtain ⟨start, a, last, idleTtl, hs, -, hu, htn, -, -⟩ := ht.expiry
  rw [hu, htn]
  constructor
  · rintro ⟨start', a', hs', h₁, h₂⟩
    rw [hs] at hs'; cases hs'
    exact ⟨h₁, h₂⟩
  · intro ⟨h₁, h₂⟩
    exact ⟨start, a, hs, h₁, h₂⟩

private theorem live_iff {H : History} {h : Bytea} {s : UserSession} (ht : TracksRow H h s) (t : Int) :
    s.Live t ↔ ¬ Retired H h ∧ Unexpired H h t := by
  rw [← ht.revoked, unexpired_iff ht, UserSession.Live]
  simp

/-! ### One event -/

private theorem inserted_cons (e : SessionEvent) (H : History) (h : Bytea) :
    Inserted (e :: H) h ↔ e.Inserts h ∨ Inserted H h := by
  simp [Inserted]

/-- Only an insertion of `h` concerns the start of its chain. -/
private theorem chainStart_cons {e : SessionEvent} {h : Bytea} (hins : ¬ e.Inserts h) (H : History) :
    chainStart (e :: H) h = chainStart H h := by
  obtain ⟨time, call, reply⟩ := e
  cases call with
  | create id a =>
    cases reply with
    | created d => exact if_neg fun ha => hins ⟨ha, rfl⟩
    | _ => rfl
  | rotate id a =>
    cases reply with
    | created d => exact if_neg fun ha => hins ⟨ha, rfl⟩
    | _ => rfl
  | _ => rfl

/-- An event that is neither an insertion nor a use of `h` leaves its expiry as it was. -/
private theorem TracksRow.skip {e : SessionEvent} {H : History} {h : Bytea} {s s' : UserSession}
    (ht : TracksRow H h s) (hins : ¬ e.Inserts h) (huse : e.use h = none)
    (hrev : s'.revokedAt.isSome ↔ Retired (e :: H) h) (hu : s'.userId = s.userId) (htn : s'.tenantId = s.tenantId)
    (ha : s'.absoluteExpiresAt = s.absoluteExpiresAt) (hi : s'.idleExpiresAt = s.idleExpiresAt) :
    TracksRow (e :: H) h s' := by
  obtain ⟨start, a, last, idleTtl, hs, hl, h₁, h₂, h₃, h₄⟩ := ht.expiry
  refine ⟨(inserted_cons e H h).2 (Or.inr ht.inserted), hrev, start, a, last, idleTtl, ?_, ?_, hu.trans h₁,
    htn.trans h₂, ha.trans h₃, hi.trans h₄⟩
  · rw [chainStart_cons hins, hs]
  · simp [lastUse, huse, hl]

/-- An event that does not concern `h`. -/
private theorem Tracks.quiet {e : SessionEvent} {H : History} {h : Bytea} {o : Option UserSession}
    (ht : Tracks H h o) (hins : ¬ e.Inserts h) (huse : e.use h = none)
    (hret : Retired (e :: H) h → Retired H h) : Tracks (e :: H) h o := by
  cases o with
  | none =>
    unfold Tracks at ht ⊢
    rw [inserted_cons]
    exact fun h => h.elim hins ht
  | some s =>
    exact TracksRow.skip ht hins huse
      ⟨fun h => Or.inl ((TracksRow.revoked ht).1 h), fun h => (TracksRow.revoked ht).2 (hret h)⟩ rfl rfl rfl rfl

private theorem Retired.inserted {H : History} {h : Bytea} (hr : Retired H h) : Inserted H h := by
  induction H with
  | nil => exact hr.elim
  | cons e H ih =>
    rw [inserted_cons]
    rcases hr with hr | ⟨hi, -⟩
    · exact Or.inr (ih hr)
    · exact Or.inr hi

/-- The row of a token just inserted. -/
private theorem TracksRow.fresh {e : SessionEvent} {H : History} {h : Bytea} {s : UserSession}
    (hnew : ¬ Inserted H h) (hins : e.Inserts h) (hrev : s.revokedAt = none)
    (hexp : ∃ start a idleTtl, chainStart (e :: H) h = some (start, a) ∧ e.use h = some idleTtl ∧
      s.userId = a.userId ∧ s.tenantId = a.tenantId ∧ s.absoluteExpiresAt = start + a.absoluteTtl ∧
      s.idleExpiresAt = min (e.time + idleTtl) (start + a.absoluteTtl)) :
    TracksRow (e :: H) h s := by
  obtain ⟨start, a, idleTtl, hs, huse, h₁, h₂, h₃, h₄⟩ := hexp
  refine ⟨(inserted_cons e H h).2 (Or.inl hins), ?_, start, a, e.time, idleTtl, hs, ?_, h₁, h₂, h₃, h₄⟩
  · rw [hrev]
    constructor
    · intro h; cases h
    · rintro (h | ⟨h, -⟩)
      · exact absurd h.inserted hnew
      · exact absurd h hnew
  · simp [lastUse, huse]

/-- Replies of a call that changed nothing. -/
private def SessionReply.isIdle : SessionReply → Bool
  | .session _ | .failed _ | .aborted _ => true
  | _ => false

private theorem SessionReply.isCreated_of_isIdle {reply : SessionReply} (h : reply.isIdle = true) :
    ¬ reply.isCreated = true := by
  cases reply with
  | created d => cases h
  | _ => exact Bool.false_ne_true

private theorem SessionEvent.Inserts.isCreated {e : SessionEvent} {h : Bytea} (hins : e.Inserts h) :
    e.reply.isCreated = true := by
  obtain ⟨time, call, reply⟩ := e
  cases call with
  | create id a => exact hins.2
  | rotate id a => exact hins.2
  | _ => exact hins.elim

private theorem SessionEvent.use_of_isIdle {e : SessionEvent} (hreply : e.reply.isIdle = true) (h : Bytea) :
    e.use h = none := by
  obtain ⟨time, call, reply⟩ := e
  cases reply with
  | session d => cases call <;> rfl
  | failed e => cases call <;> rfl
  | aborted e => cases call <;> rfl
  | _ => cases hreply

/-- A read, or a `create`, `touch` or `rotate` that failed. -/
private theorem Tracks.idle {e : SessionEvent} {H : History} {h : Bytea} {o : Option UserSession}
    (ht : Tracks H h o) (hreply : e.reply.isIdle) (hrevoke : ∀ k, e.call ≠ .revoke k)
    (hrevokeAll : ∀ u t, e.call ≠ .revokeAll u t) : Tracks (e :: H) h o := by
  have hcreated := SessionReply.isCreated_of_isIdle hreply
  refine ht.quiet (fun hins => hcreated hins.isCreated) (SessionEvent.use_of_isIdle hreply h) ?_
  rintro (hr | ⟨-, hr⟩)
  · exact hr
  · obtain ⟨time, call, reply⟩ := e
    cases call with
    | revoke k => exact absurd rfl (hrevoke k)
    | revokeAll u t => exact absurd rfl (hrevokeAll u t)
    | rotate id a => exact absurd hr.2 hcreated
    | _ => exact hr.elim

/-! ### One call -/

variable {db : Database} {H : History}

private theorem tracks_create (hT : ∀ h, Tracks H h (db.sessionOf h)) (t : Int) (id : Uuid)
    (a : CreateArgs) (h : Bytea) :
    Tracks (⟨t, .create id a, ((SessionCall.create id a).exec db t).2⟩ :: H) h
      (((SessionCall.create id a).exec db t).1.sessionOf h) := by
  rcases db.settle_cases .created (db.createUserSession t id a) with
    ⟨e, -, he⟩ | ⟨db', e, hr, he⟩ | ⟨db', d, hr, he⟩
  · simp only [SessionCall.exec, he]
    exact (hT h).idle rfl (by simp) (by simp)
  · simp only [SessionCall.exec, he]
    rw [Database.createUserSession_error hr]
    exact (hT h).idle rfl (by simp) (by simp)
  · simp only [SessionCall.exec, he]
    obtain ⟨hi, rfl⟩ := Database.createUserSession_ok hr
    rw [Database.sessionOf_insert hi]
    have hnone : db.sessionOf a.tokenHash = none := Database.sessionOf_of_insert hi
    by_cases hk : a.tokenHash = h
    · subst hk
      have hnew : ¬ Inserted H a.tokenHash := by
        rw [(hT a.tokenHash).inserted_iff, hnone]
        intro h
        cases h
      rw [if_pos (by rfl)]
      exact TracksRow.fresh hnew ⟨rfl, rfl⟩ rfl
        ⟨t, a, a.idleTtl, by simp [chainStart], by simp [SessionEvent.use], rfl, rfl, rfl, rfl⟩
    · rw [if_neg (show (a.row id t).tokenHash ≠ h from hk)]
      exact (hT h).quiet (by simp [SessionEvent.Inserts, hk]) (by simp [SessionEvent.use, hk])
        (fun hr => hr.elim (·) fun hr => hr.2.elim)

private theorem tracks_touch (hT : ∀ h, Tracks H h (db.sessionOf h)) (t : Int) (k : Bytea)
    (idleTtl : Int) (h : Bytea) :
    Tracks (⟨t, .touch k idleTtl, ((SessionCall.touch k idleTtl).exec db t).2⟩ :: H) h
      (((SessionCall.touch k idleTtl).exec db t).1.sessionOf h) := by
  cases hr : db.touchUserSession t k idleTtl with | mk db' r =>
  cases r with
  | error e =>
    have hdb : db' = db := Database.touchUserSession_error hr
    subst hdb
    simp only [SessionCall.exec, hr, Database.settle]
    exact (hT h).idle rfl (by simp) (by simp)
  | ok d =>
    obtain ⟨s, hs, hl, rfl, rfl⟩ := Database.touchUserSession_ok hr
    simp only [SessionCall.exec, hr, Database.settle]
    rw [Database.sessionOf_update_id hs]
    by_cases hk : h = k
    · subst hk
      rw [if_pos rfl]
      have hT' : TracksRow H h s := by have := hT h; rwa [hs] at this
      obtain ⟨start, a, last, idle, hstart, -, h₁, h₂, h₃, -⟩ := hT'.expiry
      refine ⟨(inserted_cons _ _ _).2 (Or.inr hT'.inserted), ?_, start, a, t, idleTtl, ?_, ?_, h₁, h₂, h₃, ?_⟩
      · simpa [Retired, SessionUpdate.slide] using hT'.revoked
      · simpa [chainStart] using hstart
      · simp [lastUse, SessionEvent.use]
      · simp [SessionUpdate.slide, h₃]
    · rw [if_neg hk]
      exact (hT h).quiet (by simp [SessionEvent.Inserts]) (by simp [SessionEvent.use, Ne.symm hk])
        (fun hr => hr.elim (·) fun hr => hr.2.elim)

private theorem tracks_rotate (hT : ∀ h, Tracks H h (db.sessionOf h)) (t : Int) (id : Uuid)
    (a : RotateArgs) (h : Bytea) :
    Tracks (⟨t, .rotate id a, ((SessionCall.rotate id a).exec db t).2⟩ :: H) h
      (((SessionCall.rotate id a).exec db t).1.sessionOf h) := by
  rcases db.settle_cases .created (db.rotateUserSession t id a) with
    ⟨e, -, he⟩ | ⟨db', e, hr, he⟩ | ⟨db', d, hr, he⟩
  · simp only [SessionCall.exec, he]
    exact (hT h).idle rfl (by simp) (by simp)
  · simp only [SessionCall.exec, he]
    rw [Database.rotateUserSession_error hr]
    exact (hT h).idle rfl (by simp) (by simp)
  · simp only [SessionCall.exec, he]
    obtain ⟨old, db₁, hold, hl, hi, rfl, rfl⟩ := Database.rotateUserSession_ok hr
    have hnone : db.sessionOf a.newTokenHash = none := Database.sessionOf_of_insert hi
    have hne : a.newTokenHash ≠ a.oldTokenHash := Database.tokenHash_ne_of_insert hi hold
    have hnew : (a.row id t old).tokenHash = a.newTokenHash := rfl
    have hold₁ : db₁.sessionOf a.oldTokenHash = some old := Database.sessionOf_insert_of_some hi hold
    have hTold : TracksRow H a.oldTokenHash old := by have := hT a.oldTokenHash; rwa [hold] at this
    rw [Database.sessionOf_update_id hold₁, Database.sessionOf_insert hi, hnew]
    by_cases hk : h = a.oldTokenHash
    · -- the session that is rotated away
      subst hk
      rw [if_pos rfl]
      refine hTold.skip (by simp [SessionEvent.Inserts, hne]) (by simp [SessionEvent.use, hne]) ?_ rfl rfl rfl rfl
      exact ⟨fun _ => Or.inr ⟨hTold.inserted, rfl, rfl⟩, fun _ => rfl⟩
    · rw [if_neg hk]
      by_cases hk' : a.newTokenHash = h
      · -- its successor, in the same chain
        subst hk'
        rw [if_pos rfl]
        have hfresh : ¬ Inserted H a.newTokenHash := by
          rw [(hT a.newTokenHash).inserted_iff, hnone]
          intro h
          cases h
        obtain ⟨start, b, last, idle, hstart, -, h₁, h₂, h₃, -⟩ := hTold.expiry
        exact TracksRow.fresh hfresh ⟨rfl, rfl⟩ rfl
          ⟨start, b, a.idleTtl, by simp [chainStart, hstart], by simp [SessionEvent.use], h₁, h₂, h₃,
            by simp [RotateArgs.row, h₃]⟩
      · rw [if_neg hk']
        refine (hT h).quiet (by simp [SessionEvent.Inserts, hk']) (by simp [SessionEvent.use, hk']) ?_
        rintro (hr | ⟨-, hr, -⟩)
        · exact hr
        · exact absurd hr.symm hk

/-- A row that an `UPDATE … SET revoked_at` visits, or not. -/
private theorem tracks_revoking {e : SessionEvent} {cond : UserSession → Bool} {t : Int} {h : Bytea}
    (hT : Tracks H h (db.sessionOf h)) (hins : ¬ e.Inserts h) (huse : e.use h = none)
    (hcond : ∀ s, TracksRow H h s → s.tokenHash = h → (Retired (e :: H) h ↔ Retired H h ∨ cond s = true)) :
    Tracks (e :: H) h ((db.updateSessions (.revoke t) cond).sessionOf h) := by
  rw [Database.sessionOf_update]
  cases hs : db.sessionOf h with
  | none =>
    rw [hs] at hT
    exact hT.quiet hins huse fun hr => hr.elim (·) fun hr => absurd hr.1 hT
  | some s =>
    rw [hs] at hT
    have hT' : TracksRow H h s := hT
    have hr := hcond s hT' (Database.sessionOf_mem hs).2
    rw [← hT'.revoked] at hr
    by_cases hc : cond s = true
    · exact hT'.skip hins huse (by simp [SessionUpdate.on, hc, hr, SessionUpdate.revoke])
        (by simp [SessionUpdate.on, hc, SessionUpdate.revoke]) (by simp [SessionUpdate.on, hc, SessionUpdate.revoke])
        (by simp [SessionUpdate.on, hc, SessionUpdate.revoke]) (by simp [SessionUpdate.on, hc, SessionUpdate.revoke])
    · have hon : (SessionUpdate.revoke t).on cond s = s := by simp [SessionUpdate.on, hc]
      exact hT'.skip hins huse (by simp [hon, hr, hc]) (by rw [hon]) (by rw [hon]) (by rw [hon]) (by rw [hon])

private theorem tracks_revoke (hT : ∀ h, Tracks H h (db.sessionOf h)) (t : Int) (k : Bytea) (h : Bytea) :
    Tracks (⟨t, .revoke k, .revoked⟩ :: H) h ((db.revokeUserSession t k).sessionOf h) := by
  refine tracks_revoking (hT h) (by simp [SessionEvent.Inserts]) rfl ?_
  intro s hs hsh
  simp only [Retired, hsh, Bool.and_eq_true, beq_iff_eq, Option.isNone_iff_eq_none]
  constructor
  · rintro (hr | ⟨-, hr⟩)
    · exact Or.inl hr
    · by_cases hret : Retired H h
      · exact Or.inl hret
      · rw [← hs.revoked] at hret
        exact Or.inr ⟨hr.symm, by simpa using hret⟩
  · rintro (hr | ⟨hr, -⟩)
    · exact Or.inl hr
    · exact Or.inr ⟨hs.inserted, hr.symm⟩

/-- The rows `revoke_all` visits are the valid sessions of the user and tenant. -/
private theorem revocable_iff {h : Bytea} {s : UserSession} (hs : TracksRow H h s)
    (userId tenantId : Uuid) (t : Int) :
    s.revocable userId tenantId t = true ↔
      OwnedBy H h userId tenantId ∧ ¬ Retired H h ∧ Unexpired H h t := by
  rw [ownedBy_iff hs, ← live_iff hs]
  simp [UserSession.revocable, UserSession.Live, and_assoc]

private theorem tracks_revokeAll (hT : ∀ h, Tracks H h (db.sessionOf h)) (t : Int) (userId tenantId : Uuid) (n : Nat)
    (h : Bytea) : Tracks (⟨t, .revokeAll userId tenantId, .revokedCount n⟩ :: H) h
      ((db.revokeAllUserSessions t userId tenantId).1.sessionOf h) := by
  refine tracks_revoking (hT h) (by simp [SessionEvent.Inserts]) rfl ?_
  intro s hs _
  rw [revocable_iff hs]
  simp only [Retired, hs.inserted, true_and]

/-- Every call keeps the rows and the history in step. -/
theorem tracks_exec (hT : ∀ h, Tracks H h (db.sessionOf h)) (t : Int) (call : SessionCall) (h : Bytea) :
    Tracks (⟨t, call, (call.exec db t).2⟩ :: H) h ((call.exec db t).1.sessionOf h) := by
  cases call with
  | create id a => exact tracks_create hT t id a h
  | get k =>
    cases hg : db.getUserSession t k with
    | error e => simp only [SessionCall.exec, hg, Database.settle]; exact (hT h).idle rfl (by simp) (by simp)
    | ok d => simp only [SessionCall.exec, hg, Database.settle]; exact (hT h).idle rfl (by simp) (by simp)
  | touch k idleTtl => exact tracks_touch hT t k idleTtl h
  | rotate id a => exact tracks_rotate hT t id a h
  | revoke k => exact tracks_revoke hT t k h
  | revokeAll userId tenantId => exact tracks_revokeAll hT t userId tenantId _ h

private theorem tracks_play (calls : List (Int × SessionCall)) (hT : ∀ h, Tracks H h (db.sessionOf h)) (h : Bytea) :
    Tracks (play db H calls).2 h ((play db H calls).1.sessionOf h) := by
  induction calls generalizing db H with
  | nil => exact hT h
  | cons c calls ih => exact ih (tracks_exec hT c.1 c.2)

/-! ### What the functions answer -/

private theorem get_of_tracks {h : Bytea} (hT : Tracks H h (db.sessionOf h)) (t : Int) :
    ((∃ d, db.getUserSession t h = .ok d) ↔ ValidAt H h t) ∧
    (db.getUserSession t h = .error .sessionNotFound ↔ ¬ Inserted H h) ∧
    (db.getUserSession t h = .error .sessionRevoked ↔ Inserted H h ∧ Retired H h) ∧
    (db.getUserSession t h = .error .sessionExpired ↔ Inserted H h ∧ ¬ Retired H h ∧ ¬ Unexpired H h t) := by
  cases hs : db.sessionOf h with
  | none =>
    rw [hs] at hT
    have hni : ¬ Inserted H h := hT
    rw [Database.getUserSession_none t hs]
    simp [ValidAt, hni, DbError.sessionNotFound, DbError.sessionRevoked, DbError.sessionExpired]
  | some s =>
    rw [hs] at hT
    have hT' : TracksRow H h s := hT
    obtain ⟨u, -, hget⟩ := Database.getUserSession_some t hs
    rw [hget]
    have hlive := live_iff hT' t
    have hrev := hT'.revoked
    rcases s.check_cases t with ⟨hl, hc⟩ | ⟨hr, hc⟩ | ⟨hr, hl, hc⟩
    · rw [hlive] at hl
      simp [hc, ValidAt, hT'.inserted, hl, Except.map]
    · rw [hrev] at hr
      simp [hc, ValidAt, hT'.inserted, hr, Except.map, DbError.sessionNotFound, DbError.sessionRevoked,
        DbError.sessionExpired]
    · rw [hlive] at hl
      have hret : ¬ Retired H h := by
        rw [← hrev, hr]
        intro hn
        cases hn
      have hexp : ¬ Unexpired H h t := fun he => hl ⟨hret, he⟩
      simp [hc, ValidAt, hT'.inserted, hret, hexp, Except.map, DbError.sessionNotFound, DbError.sessionRevoked,
        DbError.sessionExpired]

/-- The rows `revoke_all` counts, as a set of tokens. -/
private theorem revokeAll_count (hT : ∀ h, Tracks H h (db.sessionOf h)) (t : Int) (userId tenantId : Uuid) :
    (db.revokeAllUserSessions t userId tenantId).2 =
      Set.ncard {h | ValidAt H h t ∧ OwnedBy H h userId tenantId} := by
  let rows := db.userSessions.filter (UserSession.revocable userId tenantId t)
  have hnodup : (rows.map UserSession.tokenHash).Nodup :=
    List.Nodup.sublist (List.filter_sublist.map _) db.sessions_token_hash_key
  have hset : {h | ValidAt H h t ∧ OwnedBy H h userId tenantId} = ↑(rows.map UserSession.tokenHash).toFinset := by
    ext h
    simp only [Set.mem_ofPred_eq, List.coe_toFinset, List.mem_map]
    constructor
    · rintro ⟨⟨hins, hret, hexp⟩, hown⟩
      obtain ⟨s, hs⟩ := Option.isSome_iff_exists.1 ((hT h).inserted_iff.1 hins)
      have hTs : TracksRow H h s := by have := hT h; rwa [hs] at this
      obtain ⟨hm, hh⟩ := Database.sessionOf_mem hs
      exact ⟨s, List.mem_filter.2 ⟨hm, (revocable_iff hTs userId tenantId t).2 ⟨hown, hret, hexp⟩⟩, hh⟩
    · rintro ⟨s, hm, rfl⟩
      obtain ⟨hm, hc⟩ := List.mem_filter.1 hm
      have hTs : TracksRow H s.tokenHash s := by
        have := hT s.tokenHash; rwa [Database.sessionOf_of_mem hm] at this
      obtain ⟨hown, hret, hexp⟩ := (revocable_iff hTs userId tenantId t).1 hc
      exact ⟨⟨hTs.inserted, hret, hexp⟩, hown⟩
  rw [hset, Set.ncard_coe_finset, List.toFinset_card_of_nodup hnodup, List.length_map]
  exact List.countP_eq_length_filter

/-- After any calls on an empty table, `get_user_session` answers by the history alone, and `revoke_all_user_sessions`
counts the valid sessions of the user and tenant. -/
theorem session_validity (ids : IdentityTables) (calls : List (Int × SessionCall)) (t : Int) :
    let db := (play (.empty ids) [] calls).1
    let H := (play (.empty ids) [] calls).2
    (∀ h,
      ((∃ d, db.getUserSession t h = .ok d) ↔ ValidAt H h t) ∧
      (db.getUserSession t h = .error .sessionNotFound ↔ ¬ Inserted H h) ∧
      (db.getUserSession t h = .error .sessionRevoked ↔ Inserted H h ∧ Retired H h) ∧
      (db.getUserSession t h = .error .sessionExpired ↔ Inserted H h ∧ ¬ Retired H h ∧ ¬ Unexpired H h t)) ∧
    ∀ userId tenantId, (db.revokeAllUserSessions t userId tenantId).2 =
      Set.ncard {h | ValidAt H h t ∧ OwnedBy H h userId tenantId} := by
  have hempty : ∀ h, Tracks [] h ((Database.empty ids).sessionOf h) := fun h => by
    simp [Database.sessionOf_empty, Tracks, Inserted]
  have hT := tracks_play calls hempty
  exact ⟨fun h => get_of_tracks (hT h) t, fun userId tenantId => revokeAll_count hT t userId tenantId⟩

end CleanBackend
