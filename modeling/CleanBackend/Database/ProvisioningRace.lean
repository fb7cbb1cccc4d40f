import CleanBackend.Database.MapIdentity
import Mathlib.Algebra.Order.BigOperators.Group.Finset

/-!
# Provisioning an identity once

Any number of `map_identity` calls race to provision one unmapped `(provider, subject)`.  A call holds the rows of its
sub-block from the insert to the end of its transaction or of the sub-block (`IdentityStores.Holds`), so at most one
call at a time is past the insert into `identities`, and only that one can ever commit new rows (`ProvisioningInv`).
The others find its mapping and return its user, tenant and email.

A call that waits in an insert waits for one that has inserted more rows (`MapState.Waits.inserts_lt`), so no set of
calls can wait for each other.
-/

namespace CleanBackend

/-! ### Who holds which row -/

/-- How many of the four inserts of its sub-block a call has made and not undone. -/
def MapPhase.inserts : MapPhase → Nat
  | insertingIdentity => 1
  | insertingTenant => 2
  | insertingMembership => 3
  | provisioned => 4
  | _ => 0

/-- The row of the insert number `n`, for the calls that have made it. -/
def heldRow {ρ : Type} (n : Nat) (row : MapTxn → ρ) (txns : Tid → Option MapTxn) : Tid → Option ρ :=
  fun t => (txns t).bind fun x => if n < x.phase.inserts then some (row x) else none

/-- The pending rows are those of the calls, and nobody holds a lock on a stored row. -/
structure IdentityStores.Holds (db : IdentityStores) (txns : Tid → Option MapTxn) : Prop where
  users : InsertOnly User.id db.users (heldRow 0 MapTxn.user txns)
  identities : InsertOnly Identity.key db.identities (heldRow 1 MapTxn.identity txns)
  tenants : InsertOnly Tenant.id db.tenants (heldRow 2 MapTxn.tenant txns)
  memberships : InsertOnly Membership.key db.memberships (heldRow 3 MapTxn.membership txns)

section Held

variable {ρ : Type} {n : Nat} {row : MapTxn → ρ} {txns : Tid → Option MapTxn} {tid : Tid} {x : MapTxn} {p : MapPhase}

theorem heldRow_eq (hx : txns tid = some x) :
    heldRow n row txns tid = if n < x.phase.inserts then some (row x) else none := by
  simp [heldRow, hx]

theorem heldRow_some {r : ρ} (h : heldRow n row txns tid = some r) :
    ∃ x, txns tid = some x ∧ n < x.phase.inserts ∧ r = row x := by
  obtain ⟨x, hx, hr⟩ := Option.bind_eq_some_iff.1 h
  split at hr <;> cases hr
  exact ⟨x, hx, ‹_›, rfl⟩

private theorem heldRow_update (x : MapTxn) :
    heldRow n row (Function.update txns tid (some x)) =
      Function.update (heldRow n row txns) tid (if n < x.phase.inserts then some (row x) else none) := by
  funext t
  by_cases ht : t = tid
  · subst ht
    simp [heldRow]
  · simp [heldRow, ht]

/-- A statement that makes no insert leaves the held row. -/
private theorem heldRow_keep (hrow : ∀ p, row { x with phase := p } = row x) (hx : txns tid = some x)
    (hi : n < p.inserts ↔ n < x.phase.inserts) :
    heldRow n row (Function.update txns tid (some { x with phase := p })) = heldRow n row txns := by
  rw [heldRow_update, hrow, Function.update_eq_self_iff, heldRow_eq hx]
  simp only [hi]

private theorem heldRow_insert (hrow : ∀ p, row { x with phase := p } = row x) (hi : n < p.inserts) :
    heldRow n row (Function.update txns tid (some { x with phase := p })) =
      Function.update (heldRow n row txns) tid (some (row x)) := by
  rw [heldRow_update, hrow, if_pos hi]

private theorem heldRow_drop (hi : p.inserts = 0) :
    heldRow n row (Function.update txns tid (some { x with phase := p })) =
      Function.update (heldRow n row txns) tid none := by
  rw [heldRow_update, if_neg (by simp [hi])]

end Held

namespace IdentityStores.Holds

variable {db : IdentityStores} {txns : Tid → Option MapTxn} {tid : Tid} {x : MapTxn} {p : MapPhase}

theorem init (ids : IdentityTables) : (IdentityStores.ofTables ids).Holds fun _ => none where
  users := .ofRows ids.users_pkey
  identities := .ofRows ids.identities_pkey
  tenants := .ofRows ids.tenants_pkey
  memberships := .ofRows ids.memberships_pkey

/-- A new call holds nothing. -/
theorem start (h : db.Holds txns) (hn : txns tid = none) (now : Int) (call : MapIdentityCall) :
    db.Holds (Function.update txns tid (some ⟨now, call, .start⟩)) := by
  have hkeep : ∀ {ρ : Type} (n : Nat) (row : MapTxn → ρ),
      heldRow n row (Function.update txns tid (some ⟨now, call, .start⟩)) = heldRow n row txns := by
    intro ρ n row
    rw [heldRow_update, Function.update_eq_self_iff]
    simp [heldRow, hn, MapPhase.inserts]
  refine ⟨?_, ?_, ?_, ?_⟩ <;> rw [hkeep]
  · exact h.users
  · exact h.identities
  · exact h.tenants
  · exact h.memberships

private theorem keep (h : db.Holds txns) (hx : txns tid = some x) (hi : p.inserts = x.phase.inserts) :
    db.Holds (Function.update txns tid (some { x with phase := p })) := by
  refine ⟨?_, ?_, ?_, ?_⟩ <;> rw [heldRow_keep (fun _ => rfl) hx (by rw [hi])]
  · exact h.users
  · exact h.identities
  · exact h.tenants
  · exact h.memberships

private theorem commit (h : db.Holds txns) (hi : p.inserts = 0) :
    (db.commit tid).Holds (Function.update txns tid (some { x with phase := p })) := by
  refine ⟨?_, ?_, ?_, ?_⟩ <;> rw [heldRow_drop hi]
  · exact h.users.commit tid
  · exact h.identities.commit tid
  · exact h.tenants.commit tid
  · exact h.memberships.commit tid

private theorem abort (h : db.Holds txns) (hi : p.inserts = 0) :
    (db.abort tid).Holds (Function.update txns tid (some { x with phase := p })) := by
  refine ⟨?_, ?_, ?_, ?_⟩ <;> rw [heldRow_drop hi]
  · exact h.users.abort tid
  · exact h.identities.abort tid
  · exact h.tenants.abort tid
  · exact h.memberships.abort tid

/-- Every statement keeps the pending rows and the phases in step. -/
theorem step {r : IdentityStores × MapPhase} (h : db.Holds txns) (hx : txns tid = some x)
    (hs : MapStatement db tid x r) : r.1.Holds (Function.update txns tid (some { x with phase := r.2 })) := by
  -- the row of an insert that has not been made yet
  have hnone : ∀ {ρ : Type} (n : Nat) (row : MapTxn → ρ), x.phase.inserts = n → heldRow n row txns tid = none := by
    intro ρ n row hi
    rw [heldRow_eq hx, if_neg (by omega)]
  have hkeep : ∀ {ρ : Type} (n m : Nat) (row : MapTxn → ρ) (p : MapPhase), (∀ p, row { x with phase := p } = row x) →
      x.phase.inserts = m → p.inserts = m + 1 → n ≠ m →
      heldRow n row (Function.update txns tid (some { x with phase := p })) = heldRow n row txns := by
    intro ρ n m row p hrow hm hp hnm
    exact heldRow_keep hrow hx (by omega)
  cases hs with
  | finds hp hi =>
    refine h.keep hx ?_
    rcases hp with hp | ⟨e, hp⟩ <;> rw [hp] <;> rfl
  | notMapped hp | provisions hp | noTenant hp | chooses hp | readsEmail hp => exact h.keep hx (by rw [hp]; rfl)
  | insertsUser hp hk =>
    have hi : x.phase.inserts = 0 := by rw [hp]; rfl
    refine ⟨?_, ?_, ?_, ?_⟩
    · rw [heldRow_insert (fun _ => rfl) (Nat.lt_succ_self 0)]
      exact h.users.insert (hnone 0 _ hi) hk
    · rw [hkeep 1 0 _ _ (fun _ => rfl) hi rfl (by decide)]; exact h.identities
    · rw [hkeep 2 0 _ _ (fun _ => rfl) hi rfl (by decide)]; exact h.tenants
    · rw [hkeep 3 0 _ _ (fun _ => rfl) hi rfl (by decide)]; exact h.memberships
  | insertsIdentity hp hk =>
    have hi : x.phase.inserts = 1 := by rw [hp]; rfl
    refine ⟨?_, ?_, ?_, ?_⟩
    · rw [hkeep 0 1 _ _ (fun _ => rfl) hi rfl (by decide)]; exact h.users
    · rw [heldRow_insert (fun _ => rfl) (Nat.lt_succ_self 1)]
      exact h.identities.insert (hnone 1 _ hi) hk
    · rw [hkeep 2 1 _ _ (fun _ => rfl) hi rfl (by decide)]; exact h.tenants
    · rw [hkeep 3 1 _ _ (fun _ => rfl) hi rfl (by decide)]; exact h.memberships
  | insertsTenant hp hk =>
    have hi : x.phase.inserts = 2 := by rw [hp]; rfl
    refine ⟨?_, ?_, ?_, ?_⟩
    · rw [hkeep 0 2 _ _ (fun _ => rfl) hi rfl (by decide)]; exact h.users
    · rw [hkeep 1 2 _ _ (fun _ => rfl) hi rfl (by decide)]; exact h.identities
    · rw [heldRow_insert (fun _ => rfl) (Nat.lt_succ_self 2)]
      exact h.tenants.insert (hnone 2 _ hi) hk
    · rw [hkeep 3 2 _ _ (fun _ => rfl) hi rfl (by decide)]; exact h.memberships
  | insertsMembership hp hk =>
    have hi : x.phase.inserts = 3 := by rw [hp]; rfl
    refine ⟨?_, ?_, ?_, ?_⟩
    · rw [hkeep 0 3 _ _ (fun _ => rfl) hi rfl (by decide)]; exact h.users
    · rw [hkeep 1 3 _ _ (fun _ => rfl) hi rfl (by decide)]; exact h.identities
    · rw [hkeep 2 3 _ _ (fun _ => rfl) hi rfl (by decide)]; exact h.tenants
    · rw [heldRow_insert (fun _ => rfl) (Nat.lt_succ_self 3)]
      exact h.memberships.insert (hnone 3 _ hi) hk
  | commitsProvisioned | commits => exact h.commit rfl
  | _ => exact h.abort rfl

end IdentityStores.Holds

/-! ### The committed rows -/

/-- The committed rows are those of `ids` and, where `w` is a call, one row of `w` in each table. -/
structure IdentityStores.Extends (db : IdentityStores) (ids : IdentityTables) (w : Option MapTxn) : Prop where
  users : db.users.rows.Perm (ids.users ++ (w.map MapTxn.user).toList)
  identities : db.identities.rows.Perm (ids.identities ++ (w.map MapTxn.identity).toList)
  tenants : db.tenants.rows.Perm (ids.tenants ++ (w.map MapTxn.tenant).toList)
  memberships : db.memberships.rows.Perm (ids.memberships ++ (w.map MapTxn.membership).toList)

namespace IdentityStores.Extends

variable {db : IdentityStores} {ids : IdentityTables} {w : Option MapTxn} {txns : Tid → Option MapTxn} {tid : Tid}
  {x v : MapTxn}

private theorem init (ids : IdentityTables) : (IdentityStores.ofTables ids).Extends ids none := by
  constructor <;> simp [IdentityStores.ofTables]

private theorem abort (h : db.Extends ids w) (tid : Tid) : (db.abort tid).Extends ids w := by
  constructor <;> simp only [IdentityStores.abort, Store.rows_abort]
  · exact h.users
  · exact h.identities
  · exact h.tenants
  · exact h.memberships

/-- A commit of a call that holds nothing. -/
private theorem commit (h : db.Extends ids w) (hh : db.Holds txns) (hx : txns tid = some x)
    (hi : x.phase.inserts = 0) :
    (db.commit tid).Extends ids w := by
  have hnone : ∀ {ρ : Type} (n : Nat) (row : MapTxn → ρ), (heldRow n row txns tid).toList = [] := by
    intro ρ n row
    rw [heldRow_eq hx, if_neg (by omega), Option.toList_none]
  refine ⟨(hh.users.rows_commit tid).trans ?_, (hh.identities.rows_commit tid).trans ?_,
    (hh.tenants.rows_commit tid).trans ?_, (hh.memberships.rows_commit tid).trans ?_⟩ <;>
    rw [hnone, List.append_nil]
  · exact h.users
  · exact h.identities
  · exact h.tenants
  · exact h.memberships

/-- The commit of a call that has made its four inserts. -/
private theorem commit_provisioned (h : db.Extends ids none) (hh : db.Holds txns) (hx : txns tid = some x)
    (hi : x.phase.inserts = 4) : (db.commit tid).Extends ids (some x) := by
  have hsome : ∀ {ρ : Type} (n : Nat) (row : MapTxn → ρ), n < 4 → heldRow n row txns tid = some (row x) := by
    intro ρ n row hn
    rw [heldRow_eq hx, hi, if_pos hn]
  have happ : ∀ {ρ : Type} {l l₀ : List ρ} (r : ρ), l.Perm (l₀ ++ (none : Option ρ).toList) →
      (l ++ (some r).toList).Perm (l₀ ++ (some r).toList) := by
    intro ρ l l₀ r hp
    rw [Option.toList_none, List.append_nil] at hp
    exact hp.append_right _
  constructor
  · have hp := hh.users.rows_commit tid
    rw [hsome 0 _ (by decide)] at hp
    exact hp.trans (happ _ h.users)
  · have hp := hh.identities.rows_commit tid
    rw [hsome 1 _ (by decide)] at hp
    exact hp.trans (happ _ h.identities)
  · have hp := hh.tenants.rows_commit tid
    rw [hsome 2 _ (by decide)] at hp
    exact hp.trans (happ _ h.tenants)
  · have hp := hh.memberships.rows_commit tid
    rw [hsome 3 _ (by decide)] at hp
    exact hp.trans (happ _ h.memberships)

private theorem mem_users (h : db.Extends ids w) {r : User} :
    r ∈ db.users.rows ↔ r ∈ ids.users ∨ w.map MapTxn.user = some r := by
  rw [h.users.mem_iff, List.mem_append, Option.mem_toList]

private theorem mem_identities (h : db.Extends ids w) {r : Identity} :
    r ∈ db.identities.rows ↔ r ∈ ids.identities ∨ w.map MapTxn.identity = some r := by
  rw [h.identities.mem_iff, List.mem_append, Option.mem_toList]

private theorem mem_tenants (h : db.Extends ids w) {r : Tenant} :
    r ∈ db.tenants.rows ↔ r ∈ ids.tenants ∨ w.map MapTxn.tenant = some r := by
  rw [h.tenants.mem_iff, List.mem_append, Option.mem_toList]

private theorem mem_memberships (h : db.Extends ids w) {r : Membership} :
    r ∈ db.memberships.rows ↔ r ∈ ids.memberships ∨ w.map MapTxn.membership = some r := by
  rw [h.memberships.mem_iff, List.mem_append, Option.mem_toList]

/-- The id of the new user is new. -/
private theorem user_new (h : db.Extends ids (some v)) (hh : db.Holds txns) :
    v.call.userId ∉ ids.users.map User.id := by
  have hu : (db.users.rows.map User.id).Nodup := hh.users.keyed.uniqueBy_rows
  rw [(h.users.map User.id).nodup_iff, List.map_append, List.nodup_append] at hu
  intro hm
  exact hu.2.2 _ hm v.call.userId (by simp [MapTxn.user]) rfl

/-- The lookup of the winner's user finds the winner's tenant and nothing else. -/
private theorem loginRows_winner (h : db.Extends ids (some v)) (hh : db.Holds txns) :
    v.membership ∈ loginRows db.memberships.rows db.tenants.rows v.call.userId ∧
    ∀ m ∈ loginRows db.memberships.rows db.tenants.rows v.call.userId, m = v.membership := by
  constructor
  · have hm : v.membership ∈ db.memberships.rows := h.mem_memberships.2 (Or.inr rfl)
    have ht : v.tenant ∈ db.tenants.rows := h.mem_tenants.2 (Or.inr rfl)
    refine List.mem_filter.2 ⟨hm, ?_⟩
    simp only [Bool.and_eq_true, List.any_eq_true]
    exact ⟨⟨by simp [MapTxn.membership], by simp [MapTxn.membership]⟩, v.tenant, ht,
      by simp [MapTxn.tenant, MapTxn.membership]⟩
  · intro m hm
    obtain ⟨hm, hw⟩ := List.mem_filter.1 hm
    simp only [Bool.and_eq_true, beq_iff_eq] at hw
    rcases h.mem_memberships.1 hm with hm | hm
    · -- the membership of an old user
      have hfk := ids.memberships_user_fkey m hm
      rw [hw.1.1] at hfk
      exact absurd hfk (h.user_new hh)
    · cases hm
      rfl

/-- The email of the winner's user. -/
private theorem findBy_winner (h : db.Extends ids (some v)) (hh : db.Holds txns) :
    findBy User.id v.call.userId db.users.rows = some v.user :=
  hh.users.keyed.uniqueBy_rows.findBy_of_mem (h.mem_users.2 (Or.inr rfl))

end IdentityStores.Extends

/-! ### The invariant -/

/-- The call provisions the identity `(p, q)`. -/
def MapIdentityCall.Provisions (p q : String) (c : MapIdentityCall) : Prop :=
  c.provider = p ∧ c.subject = q ∧ c.provision = true

def MapAction.Provisions (p q : String) : MapAction → Prop
  | start _ call => call.Provisions p q
  | _ => True

/-- One of the ids drawn for the call is in the tables already. -/
def MapTxn.DrewTaken (ids : IdentityTables) (x : MapTxn) : Prop :=
  x.call.userId ∈ ids.users.map User.id ∨ x.call.tenantId ∈ ids.tenants.map Tenant.id

/-- What a call knows, when `w` has committed the new rows. -/
def MapTxn.Sound (ids : IdentityTables) (w : Option MapTxn) (x : MapTxn) : Prop :=
  match x.phase with
  | .reselecting _ => w.isSome ∨ x.DrewTaken ids
  | .choosingTenant u => ∃ v, w = some v ∧ u = v.call.userId
  | .readingEmail u t => ∃ v, w = some v ∧ u = v.call.userId ∧ t = v.call.tenantId
  | .returned reply | .committed reply => ∃ v, w = some v ∧ reply = .ok v.mapped
  | .rolledBack (some _) => x.DrewTaken ids
  | _ => True

structure ProvisioningInv (ids : IdentityTables) (p q : String) (s : MapState) (w : Option MapTxn) : Prop where
  holds : s.db.Holds s.txns
  rows : s.db.Extends ids w
  calls : ∀ t x, s.txns t = some x → x.call.Provisions p q
  winner : ∀ v, w = some v → ∃ t, s.txns t = some v ∧ v.phase = .committed (.ok v.mapped)
  sound : ∀ t x, s.txns t = some x → x.Sound ids w

/-- A call that is not waiting for the winner's rows stays sound when there is a winner. -/
private theorem MapTxn.Sound.of_none {ids : IdentityTables} {x : MapTxn} (h : x.Sound ids none) (w : Option MapTxn) :
    x.Sound ids w := by
  unfold Sound at *
  split at h
  · exact Or.inr (h.resolve_left (by simp))
  · obtain ⟨v, hv, -⟩ := h
    cases hv
  · obtain ⟨v, hv, -⟩ := h
    cases hv
  · obtain ⟨v, hv, -⟩ := h
    cases hv
  · obtain ⟨v, hv, -⟩ := h
    cases hv
  · exact h
  · trivial

namespace ProvisioningInv

variable {ids : IdentityTables} {p q : String} {s : MapState} {w : Option MapTxn} {tid : Tid} {x v : MapTxn}

private theorem init (ids : IdentityTables) (p q : String) (clock : Int) :
    ProvisioningInv ids p q (.init ids clock) none where
  holds := .init ids
  rows := .init ids
  calls t x hx := by cases hx
  winner v hv := by cases hv
  sound t x hx := by cases hx

private theorem identity_key (h : ProvisioningInv ids p q s w) (hx : s.txns tid = some x) :
    x.identity.key = (p, q) := by
  obtain ⟨hp, hq, -⟩ := h.calls tid x hx
  simp [Identity.key, MapTxn.identity, hp, hq]

private theorem winner_key (h : ProvisioningInv ids p q s (some v)) : v.identity.key = (p, q) := by
  obtain ⟨t, ht, -⟩ := h.winner v rfl
  exact h.identity_key ht

/-- What the lookup of `(p, q)` finds. -/
private theorem lookup_eq (h : ProvisioningInv ids p q s w) (hmap : (p, q) ∉ ids.identities.map Identity.key)
    (hx : s.txns tid = some x) (hi : x.phase.inserts = 0) :
    x.lookup s.db tid = w.map fun v => v.call.userId := by
  have hk := h.identity_key hx
  unfold MapTxn.lookup
  rw [h.holds.identities.seenBy_eq_rows (by rw [heldRow_eq hx, if_neg (by omega)]),
    show (x.call.provider, x.call.subject) = (p, q) from hk]
  cases w with
  | none =>
    rw [findBy_eq_none.2]
    · rfl
    · intro i hi he
      rcases h.rows.mem_identities.1 hi with hi | hi
      · exact hmap (he ▸ List.mem_map_of_mem hi)
      · cases hi
  | some v =>
    have hv : v.identity ∈ s.db.identities.rows := h.rows.mem_identities.2 (Or.inr rfl)
    have hf := h.holds.identities.keyed.uniqueBy_rows.findBy_of_mem hv
    rw [h.winner_key] at hf
    rw [hf]
    rfl

/-- A call past its insert into `identities` has no winner before it. -/
private theorem no_winner (h : ProvisioningInv ids p q s w) (hx : s.txns tid = some x) (hi : 1 < x.phase.inserts) :
    w = none := by
  cases w with
  | none => rfl
  | some v =>
    have hheld : heldRow 1 MapTxn.identity s.txns tid = some x.identity := by rw [heldRow_eq hx, if_pos hi]
    have hv : v.identity ∈ s.db.identities.rows := h.rows.mem_identities.2 (Or.inr rfl)
    have hne := h.holds.identities.key_ne hheld hv
    rw [h.winner_key, h.identity_key hx] at hne
    exact absurd rfl hne

/-- What a duplicate key means, where the call does not hold the row itself. -/
private theorem duplicate_row {ρ κ : Type} [DecidableEq κ] {key : ρ → κ} {st : Store Tid ρ} {held : Tid → Option ρ}
    (h : InsertOnly key st held) (hn : held tid = none) {k : κ} (hd : st.clash key tid k = .duplicate) :
    ∃ r ∈ st.rows, key r = k := by
  rcases Store.clash_duplicate hd with hr | ⟨r, hr, -⟩
  · exact hr
  · rw [h.pending, hn] at hr
    cases hr

private theorem not_held {ρ : Type} {n : Nat} {row : MapTxn → ρ} (hx : s.txns tid = some x)
    (hi : x.phase.inserts ≤ n) : heldRow n row s.txns tid = none := by
  rw [heldRow_eq hx, if_neg (by omega)]

private theorem isHeld {ρ : Type} {n : Nat} {row : MapTxn → ρ} (hx : s.txns tid = some x)
    (hi : n < x.phase.inserts) : heldRow n row s.txns tid = some (row x) := by
  rw [heldRow_eq hx, if_pos hi]

/-- A unique violation: there is a winner, or an id drawn for the call was taken. -/
private theorem taken (h : ProvisioningInv ids p q s w) (hmap : (p, q) ∉ ids.identities.map Identity.key)
    (hx : s.txns tid = some x) {r : IdentityStores × MapPhase} (hs : MapStatement s.db tid x r) {e : SqlError}
    (hr : r.2 = .reselecting e) : w.isSome ∨ x.DrewTaken ids := by
  cases w with
  | some v => exact Or.inl rfl
  | none =>
    right
    -- without a winner the key that is taken was there before the run
    cases hs with
    | userTaken hp hd =>
      have hn : heldRow 0 MapTxn.user s.txns tid = none := not_held hx (by rw [hp]; exact Nat.le_refl 0)
      obtain ⟨r, hr, hk⟩ := duplicate_row h.holds.users hn hd
      rcases h.rows.mem_users.1 hr with hr | hr
      · exact Or.inl (List.mem_map.2 ⟨r, hr, hk⟩)
      · cases hr
    | identityTaken hp hd =>
      have hn : heldRow 1 MapTxn.identity s.txns tid = none := not_held hx (by rw [hp]; exact Nat.le_refl 1)
      obtain ⟨r, hr, hk⟩ := duplicate_row h.holds.identities hn hd
      rcases h.rows.mem_identities.1 hr with hr | hr
      · rw [h.identity_key hx] at hk
        exact absurd (hk ▸ List.mem_map_of_mem hr) hmap
      · cases hr
    | tenantTaken hp hd =>
      have hn : heldRow 2 MapTxn.tenant s.txns tid = none := not_held hx (by rw [hp]; exact Nat.le_refl 2)
      obtain ⟨r, hr, hk⟩ := duplicate_row h.holds.tenants hn hd
      rcases h.rows.mem_tenants.1 hr with hr | hr
      · exact Or.inr (List.mem_map.2 ⟨r, hr, hk⟩)
      · cases hr
    | membershipTaken hp hd =>
      have hn : heldRow 3 MapTxn.membership s.txns tid = none := not_held hx (by rw [hp]; exact Nat.le_refl 3)
      obtain ⟨r, hr, hk⟩ := duplicate_row h.holds.memberships hn hd
      rcases h.rows.mem_memberships.1 hr with hr | hr
      · -- its user is in the tables, the foreign key says
        have hfk := ids.memberships_user_fkey r hr
        rw [show r.userId = x.call.userId from congrArg Prod.fst hk] at hfk
        exact Or.inl hfk
      · cases hr
    | _ => cases hr

/-- The foreign keys of the sub-block hold. -/
private theorem user_seen (h : ProvisioningInv ids p q s w) (hx : s.txns tid = some x) (hi : 0 < x.phase.inserts) :
    x.call.userId ∈ (s.db.users.seenBy tid).map User.id :=
  List.mem_map.2 ⟨x.user, h.holds.users.mem_seenBy.2 (Or.inr (isHeld hx hi)), rfl⟩

private theorem tenant_seen (h : ProvisioningInv ids p q s w) (hx : s.txns tid = some x) (hi : 2 < x.phase.inserts) :
    x.call.tenantId ∈ (s.db.tenants.seenBy tid).map Tenant.id :=
  List.mem_map.2 ⟨x.tenant, h.holds.tenants.mem_seenBy.2 (Or.inr (isHeld hx hi)), rfl⟩

/-- A statement that commits no new rows. -/
private theorem keep {r : IdentityStores × MapPhase} (h : ProvisioningInv ids p q s w) (hx : s.txns tid = some x)
    (hs : MapStatement s.db tid x r) (hrows : r.1.Extends ids w)
    (hsound : MapTxn.Sound ids w { x with phase := r.2 }) : ProvisioningInv ids p q (s.apply tid x r) w where
  holds := h.holds.step hx hs
  rows := hrows
  calls t y hy := by
    rw [MapState.apply_txns] at hy
    by_cases ht : t = tid
    · subst ht
      rw [Function.update_self] at hy
      cases hy
      exact h.calls t x hx
    · rw [Function.update_of_ne ht] at hy
      exact h.calls t y hy
  winner v hv := by
    obtain ⟨t, ht, hp⟩ := h.winner v hv
    have hne : t ≠ tid := by
      rintro rfl
      have hu := hs.unfinished
      obtain rfl : x = v := Option.some.inj (hx.symm.trans ht)
      rw [hp] at hu
      cases hu
    exact ⟨t, by rw [MapState.apply_txns, Function.update_of_ne hne]; exact ht, hp⟩
  sound t y hy := by
    rw [MapState.apply_txns] at hy
    by_cases ht : t = tid
    · subst ht
      rw [Function.update_self] at hy
      cases hy
      exact hsound
    · rw [Function.update_of_ne ht] at hy
      exact h.sound t y hy

/-- The first commit of a sub-block. -/
private theorem win (h : ProvisioningInv ids p q s none) (hx : s.txns tid = some x) (hp : x.phase = .provisioned) :
    ProvisioningInv ids p q (s.apply tid x (s.db.commit tid, .committed (.ok x.mapped)))
      (some { x with phase := .committed (.ok x.mapped) }) where
  holds := h.holds.commit rfl
  rows := by
    have hrows := h.rows.commit_provisioned h.holds hx (by rw [hp]; rfl)
    exact ⟨hrows.users, hrows.identities, hrows.tenants, hrows.memberships⟩
  calls t y hy := by
    rw [MapState.apply_txns] at hy
    by_cases ht : t = tid
    · subst ht
      rw [Function.update_self] at hy
      cases hy
      exact h.calls t x hx
    · rw [Function.update_of_ne ht] at hy
      exact h.calls t y hy
  winner v hv := by
    cases hv
    exact ⟨tid, by rw [MapState.apply_txns, Function.update_self], rfl⟩
  sound t y hy := by
    rw [MapState.apply_txns] at hy
    by_cases ht : t = tid
    · subst ht
      rw [Function.update_self] at hy
      cases hy
      exact ⟨_, rfl, rfl⟩
    · rw [Function.update_of_ne ht] at hy
      exact (h.sound t y hy).of_none _

private theorem statement {r : IdentityStores × MapPhase} (h : ProvisioningInv ids p q s w)
    (hmap : (p, q) ∉ ids.identities.map Identity.key) (hx : s.txns tid = some x) (hs : MapStatement s.db tid x r) :
    ∃ w', ProvisioningInv ids p q (s.apply tid x r) w' := by
  have hsound := h.sound tid x hx
  unfold MapTxn.Sound at hsound
  have habort := h.rows.abort tid
  cases hs with
  | finds hp hi =>
    refine ⟨w, h.keep hx (.finds hp hi) h.rows ?_⟩
    have h₀ : x.phase.inserts = 0 := by rcases hp with hp | ⟨e, hp⟩ <;> rw [hp] <;> rfl
    rw [h.lookup_eq hmap hx h₀] at hi
    obtain ⟨v, hv, hu⟩ := Option.map_eq_some_iff.1 hi
    exact ⟨v, hv, hu.symm⟩
  | notMapped hp hv =>
    obtain ⟨-, -, hprov⟩ := h.calls tid x hx
    rw [hprov] at hv
    cases hv
  | provisions hp => exact ⟨w, h.keep hx (.provisions hp) h.rows trivial⟩
  | insertsUser hp hk =>
    refine ⟨w, h.keep hx (.insertsUser hp hk) ?_ trivial⟩
    exact ⟨by rw [Store.rows_insert]; exact h.rows.users, h.rows.identities, h.rows.tenants, h.rows.memberships⟩
  | insertsIdentity hp hk =>
    refine ⟨w, h.keep hx (.insertsIdentity hp hk) ?_ trivial⟩
    exact ⟨h.rows.users, by rw [Store.rows_insert]; exact h.rows.identities, h.rows.tenants, h.rows.memberships⟩
  | insertsTenant hp hk =>
    refine ⟨w, h.keep hx (.insertsTenant hp hk) ?_ trivial⟩
    exact ⟨h.rows.users, h.rows.identities, by rw [Store.rows_insert]; exact h.rows.tenants, h.rows.memberships⟩
  | insertsMembership hp hk =>
    refine ⟨w, h.keep hx (.insertsMembership hp hk) ?_ trivial⟩
    exact ⟨h.rows.users, h.rows.identities, h.rows.tenants, by rw [Store.rows_insert]; exact h.rows.memberships⟩
  | @userTaken e hp hd =>
    have hs : MapStatement s.db tid x (s.db.abort tid, .reselecting e) := .userTaken hp hd
    have ht : w.isSome ∨ x.DrewTaken ids := h.taken hmap hx hs rfl
    exact ⟨w, h.keep hx hs habort ht⟩
  | @identityTaken e hp hd =>
    have hs : MapStatement s.db tid x (s.db.abort tid, .reselecting e) := .identityTaken hp hd
    have ht : w.isSome ∨ x.DrewTaken ids := h.taken hmap hx hs rfl
    exact ⟨w, h.keep hx hs habort ht⟩
  | @tenantTaken e hp hd =>
    have hs : MapStatement s.db tid x (s.db.abort tid, .reselecting e) := .tenantTaken hp hd
    have ht : w.isSome ∨ x.DrewTaken ids := h.taken hmap hx hs rfl
    exact ⟨w, h.keep hx hs habort ht⟩
  | @membershipTaken e hp hd =>
    have hs : MapStatement s.db tid x (s.db.abort tid, .reselecting e) := .membershipTaken hp hd
    have ht : w.isSome ∨ x.DrewTaken ids := h.taken hmap hx hs rfl
    exact ⟨w, h.keep hx hs habort ht⟩
  | identityFkey hp hf => exact absurd (h.user_seen hx (by rw [hp]; decide)) hf
  | membershipFkey hp hf =>
    rcases hf with hf | hf
    · exact absurd (h.user_seen hx (by rw [hp]; decide)) hf
    · exact absurd (h.tenant_seen hx (by rw [hp]; decide)) hf
  | commitsProvisioned hp =>
    obtain rfl := h.no_winner hx (by rw [hp]; decide)
    exact ⟨_, h.win hx hp⟩
  | raises hp hi =>
    -- no mapping, so there is no winner
    rw [h.lookup_eq hmap hx (by rw [hp]; rfl)] at hi
    rw [Option.map_eq_none_iff.1 hi] at h hsound
    rw [hp] at hsound
    exact ⟨none, h.keep hx (.raises hp (by rw [h.lookup_eq hmap hx (by rw [hp]; rfl)]; rfl)) (h.rows.abort tid)
      (hsound.resolve_left (by simp))⟩
  | noTenant hp hr =>
    rw [hp] at hsound
    obtain ⟨v, rfl, rfl⟩ := hsound
    have hm := (h.rows.loginRows_winner h.holds).1
    rw [h.holds.memberships.seenBy_eq_rows (not_held hx (by rw [hp]; exact Nat.zero_le _)),
      h.holds.tenants.seenBy_eq_rows (not_held hx (by rw [hp]; exact Nat.zero_le _))] at hr
    rw [hr] at hm
    cases hm
  | @chooses u m hp hm =>
    rw [hp] at hsound
    obtain ⟨v, rfl, rfl⟩ := hsound
    refine ⟨_, h.keep hx (.chooses hp hm) h.rows ⟨v, rfl, rfl, ?_⟩⟩
    rw [h.holds.memberships.seenBy_eq_rows (not_held hx (by rw [hp]; exact Nat.zero_le _)),
      h.holds.tenants.seenBy_eq_rows (not_held hx (by rw [hp]; exact Nat.zero_le _))] at hm
    rw [(h.rows.loginRows_winner h.holds).2 m (List.mem_of_mem_filter hm)]
    rfl
  | readsEmail hp =>
    rw [hp] at hsound
    obtain ⟨v, rfl, rfl, rfl⟩ := hsound
    refine ⟨_, h.keep hx (.readsEmail hp) h.rows ⟨v, rfl, ?_⟩⟩
    rw [h.holds.users.seenBy_eq_rows (not_held hx (by rw [hp]; exact Nat.zero_le _)), h.rows.findBy_winner h.holds]
    rfl
  | commits hp =>
    rw [hp] at hsound
    exact ⟨w, h.keep hx (.commits hp) (h.rows.commit h.holds hx (by rw [hp]; rfl)) hsound⟩
  | aborts hp => exact ⟨w, h.keep hx (.aborts hp) habort trivial⟩

private theorem step {s' : MapState} {a : MapAction} (h : ProvisioningInv ids p q s w)
    (hmap : (p, q) ∉ ids.identities.map Identity.key) (ha : a.Provisions p q) (hst : mapMachine.step s a = some s') :
    ∃ w', ProvisioningInv ids p q s' w' := by
  rcases mapMachine_step hst with ⟨d, -, rfl⟩ | ⟨tid, call, rfl, hn, rfl⟩ | ⟨tid, x, r, hx, hs, rfl⟩
  · exact ⟨w, h.holds, h.rows, h.calls, h.winner, h.sound⟩
  · refine ⟨w, h.holds.start hn _ _, h.rows, ?_, ?_, ?_⟩
    · intro t y hy
      rw [MapState.put_txns] at hy
      by_cases ht : t = tid
      · subst ht
        rw [Function.update_self] at hy
        cases hy
        exact ha
      · rw [Function.update_of_ne ht] at hy
        exact h.calls t y hy
    · intro v hv
      obtain ⟨t, ht, hp⟩ := h.winner v hv
      have hne : t ≠ tid := by
        rintro rfl
        rw [hn] at ht
        cases ht
      exact ⟨t, by rw [MapState.put_txns, Function.update_of_ne hne]; exact ht, hp⟩
    · intro t y hy
      rw [MapState.put_txns] at hy
      by_cases ht : t = tid
      · subst ht
        rw [Function.update_self] at hy
        cases hy
        trivial
      · rw [Function.update_of_ne ht] at hy
        exact h.sound t y hy
  · exact h.statement hmap hx hs

end ProvisioningInv

/-! ### Waiting -/

private theorem waits_inserts {ρ κ : Type} [DecidableEq κ] {st : Store Tid ρ} {key : ρ → κ} {pkey : String}
    {n : Nat} {row : MapTxn → ρ} {txns : Tid → Option MapTxn} (h : InsertOnly key st (heldRow n row txns))
    {tid owner : Tid} {r : ρ} {fkeys : Option SqlError}
    (hw : (st.tryInsert key pkey tid r fkeys).owner = some owner) :
    ∃ y, txns owner = some y ∧ n < y.phase.inserts := by
  rcases st.tryInsert_cases key pkey tid r fkeys with
    ⟨o, hc, he⟩ | ⟨-, he⟩ | ⟨e, -, he⟩ | ⟨-, -, he⟩ <;> rw [he] at hw <;> cases hw
  obtain ⟨-, r', hp, -⟩ := Store.clash_waitFor hc
  obtain ⟨y, hy, hn, -⟩ := heldRow_some ((h.pending owner r').1 hp)
  exact ⟨y, hy, hn⟩

/-- The inserts of all calls go through the tables in one order. -/
theorem MapState.Waits.inserts_lt {s : MapState} (h : s.db.Holds s.txns) {tid owner : Tid} (hw : s.Waits tid owner) :
    ∃ x y, s.txns tid = some x ∧ s.txns owner = some y ∧ x.phase.inserts < y.phase.inserts := by
  obtain ⟨x, hx, hw⟩ := hw
  suffices hy : ∃ y, s.txns owner = some y ∧ x.phase.inserts < y.phase.inserts by
    obtain ⟨y, hy, hlt⟩ := hy
    exact ⟨x, y, hx, hy, hlt⟩
  unfold MapTxn.waitsFor at hw
  split at hw
  · rename_i hp
    rw [hp]
    exact waits_inserts h.users hw
  · rename_i hp
    rw [hp]
    exact waits_inserts h.identities hw
  · rename_i hp
    rw [hp]
    exact waits_inserts h.tenants hw
  · rename_i hp
    rw [hp]
    exact waits_inserts h.memberships hw
  · cases hw

private theorem MapPhase.inserts_le (p : MapPhase) : p.inserts ≤ 4 := by
  cases p <;> simp [inserts]

/-- A finished call holds nothing. -/
private theorem MapPhase.unfinished_of_inserts {p : MapPhase} (h : 0 < p.inserts) : p.finished = false := by
  cases p <;> simp [inserts, finished] at h ⊢

/-- No set of calls waits for itself. -/
private theorem MapState.exists_not_waiting {s : MapState} (h : s.db.Holds s.txns) {S : Set Tid} (hS : S.Nonempty) :
    ∃ tid ∈ S, ∀ owner ∈ S, ¬ s.Waits tid owner := by
  -- a member that has made the most inserts
  let left : Tid → Nat := fun t => (s.txns t).elim 4 fun x => 4 - x.phase.inserts
  obtain ⟨tid, htid, hmin⟩ := WellFounded.has_min (measure left).wf S hS
  refine ⟨tid, htid, fun owner howner hw => hmin owner howner ?_⟩
  obtain ⟨x, y, hx, hy, hlt⟩ := hw.inserts_lt h
  have hle := y.phase.inserts_le
  show left owner < left tid
  simp only [left, hx, hy, Option.elim_some]
  omega

/-! ### Every call can finish -/

/-- A bound on the statements a call still has to take. -/
def MapPhase.remaining : MapPhase → Nat
  | start => 10
  | insertingUser => 9
  | insertingIdentity => 8
  | insertingTenant => 7
  | insertingMembership => 6
  | reselecting _ => 5
  | choosingTenant _ => 4
  | readingEmail _ _ => 3
  | returned _ => 2
  | provisioned => 1
  | committed _ | rolledBack _ => 0

private theorem MapPhase.remaining_eq_zero {p : MapPhase} : p.remaining = 0 ↔ p.finished := by
  cases p <;> simp [remaining, finished]

/-- Every statement brings its call nearer to the end. -/
private theorem MapStatement.remaining_lt {db : IdentityStores} {tid : Tid} {x : MapTxn}
    {r : IdentityStores × MapPhase} (h : MapStatement db tid x r) : r.2.remaining < x.phase.remaining := by
  cases h with
  | finds hp => rcases hp with hp | ⟨e, hp⟩ <;> rw [hp] <;> simp [MapPhase.remaining]
  | aborts hp =>
    refine Nat.pos_of_ne_zero fun h₀ => ?_
    rw [MapPhase.remaining_eq_zero.1 h₀] at hp
    cases hp
  | _ => simp [MapPhase.remaining, *]

def MapAction.isStatement : MapAction → Bool
  | exec _ | choose _ _ => true
  | _ => false

/-- All the statements the calls of `F` still have to take. -/
def MapState.remaining (F : Finset Tid) (s : MapState) : Nat :=
  ∑ t ∈ F, (s.txns t).elim 0 fun x => x.phase.remaining

private theorem MapState.remaining_apply_lt {s : MapState} {F : Finset Tid} {tid : Tid} {x : MapTxn}
    {r : IdentityStores × MapPhase} (hF : tid ∈ F) (hx : s.txns tid = some x) (hs : MapStatement s.db tid x r) :
    (s.apply tid x r).remaining F < s.remaining F := by
  have hlt : ((s.apply tid x r).txns tid).elim 0 (fun x => x.phase.remaining) <
      (s.txns tid).elim 0 fun x => x.phase.remaining := by
    rw [apply_txns, Function.update_self, hx]
    exact hs.remaining_lt
  refine Finset.sum_lt_sum (fun t _ => ?_) ⟨tid, hF, hlt⟩
  by_cases ht : t = tid
  · subst ht
    exact Nat.le_of_lt hlt
  · rw [apply_txns, Function.update_of_ne ht]

/-- While a call has not finished, some call takes a statement. -/
private theorem MapState.exists_statement {s : MapState} (h : s.db.Holds s.txns) {tid : Tid} {x : MapTxn}
    (hx : s.txns tid = some x) (hf : x.phase.finished = false) :
    ∃ a t y r, a.isStatement ∧ s.txns t = some y ∧ MapStatement s.db t y r ∧
      mapMachine.step s a = some (s.apply t y r) := by
  let S : Set Tid := { t | ∃ y, s.txns t = some y ∧ y.phase.finished = false }
  obtain ⟨t, ⟨y, hy, hyf⟩, hnot⟩ := exists_not_waiting h (S := S) ⟨tid, x, hx, hf⟩
  rcases MapTxn.next_or_waits hyf s.db t with ⟨r, hr⟩ | ⟨c, r, hr⟩ | ⟨owner, ho⟩
  · exact ⟨.exec t, t, y, r, rfl, hy, .of_next hr, by simp [mapMachine, hy, hr]⟩
  · exact ⟨.choose t c, t, y, r, rfl, hy, .of_choose hr, by simp [mapMachine, hy, hr]⟩
  · -- the owner holds a row, so it has not finished either
    have hw : s.Waits t owner := ⟨y, hy, ho⟩
    obtain ⟨x', z, hx', hz, hlt⟩ := hw.inserts_lt h
    exact absurd hw (hnot owner ⟨z, hz, MapPhase.unfinished_of_inserts (Nat.zero_lt_of_lt hlt)⟩)

/-- Without aborts and new calls all the calls of a state come to their end. -/
private theorem MapState.can_finish {s : MapState} (h : s.db.Holds s.txns) {F : Finset Tid}
    (hF : ∀ t x, s.txns t = some x → t ∈ F) :
    ∃ bs s', (∀ b ∈ bs, b.isStatement) ∧ mapMachine.run s bs = some s' ∧
      ∀ t x, s'.txns t = some x → x.phase.finished := by
  let P : MapState → Prop := fun s => s.db.Holds s.txns ∧ ∀ t x, s.txns t = some x → t ∈ F
  have hstep : ∀ s, P s → s.remaining F ≠ 0 →
      ∃ a s', a.isStatement ∧ mapMachine.step s a = some s' ∧ P s' ∧ s'.remaining F < s.remaining F := by
    intro s ⟨hs, hsF⟩ hne
    obtain ⟨t, ht, hrem⟩ : ∃ t ∈ F, ((s.txns t).elim 0 fun x => x.phase.remaining) ≠ 0 := by
      by_contra hall
      push Not at hall
      exact hne (Finset.sum_eq_zero hall)
    cases hx : s.txns t with
    | none => simp [hx] at hrem
    | some x =>
      rw [hx, Option.elim_some] at hrem
      have hf : x.phase.finished = false := Bool.eq_false_iff.2 fun hf => hrem (MapPhase.remaining_eq_zero.2 hf)
      obtain ⟨a, u, y, r, ha, hy, hst, hrun⟩ := exists_statement hs hx hf
      refine ⟨a, _, ha, hrun, ⟨hs.step hy hst, ?_⟩, remaining_apply_lt (hsF u y hy) hy hst⟩
      intro v z hz
      by_cases hv : v = u
      · subst hv
        exact hsF v y hy
      · rw [apply_txns, Function.update_of_ne hv] at hz
        exact hsF v z hz
  obtain ⟨bs, s', hbs, hrun, ⟨-, hs'F⟩, hzero⟩ :=
    Machine.exists_run_of_measure (P := P) (MapState.remaining F) hstep (show P s from ⟨h, hF⟩)
  refine ⟨bs, s', hbs, hrun, fun t x hx => ?_⟩
  have ht := Finset.sum_eq_zero_iff.1 hzero t (hs'F t x hx)
  rw [hx] at ht
  exact MapPhase.remaining_eq_zero.1 ht

/-! ### Exactly once -/

private theorem ProvisioningInv.of_run {ids : IdentityTables} {p q : String}
    (hmap : (p, q) ∉ ids.identities.map Identity.key)
    {clock : Int} {as : List MapAction} (hcalls : ∀ a ∈ as, a.Provisions p q) {s : MapState}
    (hrun : mapMachine.run (.init ids clock) as = some s) : ∃ w, ProvisioningInv ids p q s w := by
  refine Machine.along_induction (P := fun s => ∃ w, ProvisioningInv ids p q s w) (C := fun _ a => a.Provisions p q)
    ?_ hrun (Machine.Along.of_forall (fun a ha _ => hcalls a ha) _) ⟨none, .init ids p q clock⟩
  rintro s a s' ⟨w, h⟩ ha hst
  exact h.step hmap ha hst

/-- The calls of a reachable state are finitely many. -/
private theorem mapMachine_finite {ids : IdentityTables} {clock : Int} {as : List MapAction} {s : MapState}
    (hrun : mapMachine.run (.init ids clock) as = some s) : ∃ F : Finset Tid, ∀ t x, s.txns t = some x → t ∈ F := by
  have hput : ∀ {txns : Tid → Option MapTxn} {F : Finset Tid} (tid : Tid) (x : MapTxn),
      (∀ t y, txns t = some y → t ∈ F) → ∀ t y, Function.update txns tid (some x) t = some y → t ∈ insert tid F := by
    intro txns F tid x hF t y hy
    by_cases ht : t = tid
    · exact ht ▸ Finset.mem_insert_self tid F
    · rw [Function.update_of_ne ht] at hy
      exact Finset.mem_insert_of_mem (hF t y hy)
  refine Machine.run_induction (P := fun s => ∃ F : Finset Tid, ∀ t x, s.txns t = some x → t ∈ F) ?_ hrun
    ⟨∅, fun t x hx => by cases hx⟩
  rintro s a s' ⟨F, hF⟩ hst
  rcases mapMachine_step hst with ⟨d, -, rfl⟩ | ⟨tid, call, -, -, rfl⟩ | ⟨tid, x, r, -, -, rfl⟩
  · exact ⟨F, hF⟩
  · exact ⟨insert tid F, hput tid _ hF⟩
  · exact ⟨insert tid F, hput tid _ hF⟩

/-- Nothing is committed and no call has completed, or one call has committed its four rows and every call that has
completed returned that user, tenant and email. -/
def MapState.ProvisionedOnce (s : MapState) (ids : IdentityTables) : Prop :=
  (s.db.Extends ids none ∧ ∀ tid x reply, s.txns tid = some x → x.phase ≠ .committed reply) ∨
  ∃ winner v, s.txns winner = some v ∧ s.db.Extends ids (some v) ∧ v.phase = .committed (.ok v.mapped) ∧
    ∀ tid x reply, s.txns tid = some x → x.phase = .committed reply → reply = .ok v.mapped

/-- Calls that race to provision an unmapped identity provision it once.  A call fails only by an abort from outside
or with a drawn id that was taken, no calls wait for each other, and all can come to their end. -/
theorem provisioning_exactly_once {ids : IdentityTables} {p q : String}
    (hmap : (p, q) ∉ ids.identities.map Identity.key) {clock : Int} {as : List MapAction}
    (hcalls : ∀ a ∈ as, a.Provisions p q) {s : MapState} (hrun : mapMachine.run (.init ids clock) as = some s) :
    s.ProvisionedOnce ids ∧
    (∀ tid x e, s.txns tid = some x → x.phase = .rolledBack (some e) → x.DrewTaken ids) ∧
    (∀ S : Set Tid, S.Nonempty → ∃ tid ∈ S, ∀ owner ∈ S, ¬ s.Waits tid owner) ∧
    ∃ bs s', (∀ b ∈ bs, b.isStatement) ∧ mapMachine.run s bs = some s' ∧
      ∀ tid x, s'.txns tid = some x → x.phase.finished := by
  obtain ⟨w, h⟩ := ProvisioningInv.of_run hmap hcalls hrun
  have hcommitted : ∀ tid x reply, s.txns tid = some x → x.phase = .committed reply →
      ∃ v, w = some v ∧ reply = .ok v.mapped := by
    intro tid x reply hx hp
    have hsound := h.sound tid x hx
    unfold MapTxn.Sound at hsound
    rwa [hp] at hsound
  refine ⟨?_, ?_, fun S hS => MapState.exists_not_waiting h.holds hS, ?_⟩
  · cases w with
    | none =>
      refine Or.inl ⟨h.rows, fun tid x reply hx hp => ?_⟩
      obtain ⟨v, hv, -⟩ := hcommitted tid x reply hx hp
      cases hv
    | some v =>
      obtain ⟨winner, hwin, hp⟩ := h.winner v rfl
      refine Or.inr ⟨winner, v, hwin, h.rows, hp, fun tid x reply hx hp => ?_⟩
      obtain ⟨v', hv, hr⟩ := hcommitted tid x reply hx hp
      cases hv
      exact hr
  · intro tid x e hx hp
    have hsound := h.sound tid x hx
    unfold MapTxn.Sound at hsound
    rwa [hp] at hsound
  · obtain ⟨F, hF⟩ := mapMachine_finite hrun
    exact MapState.can_finish h.holds hF

/-- Two calls with different emails; the second has inserted its user when it meets the identity of the first. -/
def provisioningRace : List MapAction :=
  [.start 1 ⟨"supabase", "sub", some "a@example.com", true, 10, 11⟩,
    .start 2 ⟨"supabase", "sub", some "b@example.com", true, 20, 21⟩, .exec 1, .exec 2, .exec 1, .exec 2, .exec 1,
    .exec 1, .exec 1, .exec 1, .exec 2, .exec 2, .choose 2 11, .exec 2, .exec 2]

theorem provisioning_exactly_once_race :
    ∃ s, mapMachine.run (.init oneMember 0) provisioningRace = some s ∧ s.ProvisionedOnce oneMember ∧
      (s.txns 2).map MapTxn.phase = some (.committed (.ok ⟨10, 11, some "a@example.com"⟩)) := by
  have hrun : ((mapMachine.run (.init oneMember 0) provisioningRace).bind fun s =>
      (s.txns 2).map MapTxn.phase) = some (.committed (.ok ⟨10, 11, some "a@example.com"⟩)) := by
    decide
  obtain ⟨s, hs, hloser⟩ := Option.bind_eq_some_iff.1 hrun
  have hcalls : ∀ a ∈ provisioningRace, a.Provisions "supabase" "sub" := by
    simp [provisioningRace, MapAction.Provisions, MapIdentityCall.Provisions]
  exact ⟨s, hs, (provisioning_exactly_once (by decide) hcalls hs).1, hloser⟩

end CleanBackend
