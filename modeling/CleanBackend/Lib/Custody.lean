/-!
# A token in the custody of records

An issuer accepts only the token it issued last.  Records keep tokens: when the issuer takes a token back for a new
one, the new one goes into a new record and the old record is closed.  Between the two no record keeps the accepted
token (`Custody.Pending`).

`Custody` is what the records of one owner keep through both: `Custody.issue` and `Custody.replace`.
-/

namespace CleanBackend

namespace Custody

/-- A record, and the token that can be read from it. -/
structure Record (τ : Type) where
  closed : Bool
  token : Option τ
  deriving DecidableEq, Repr

variable {κ τ : Type}

/-- No record of the owner keeps the accepted token. -/
def Pending (own : κ → Prop) (records : κ → Option (Record τ)) (accepted : τ) : Prop :=
  ∀ k c, own k → records k = some c → c.token ≠ some accepted

end Custody

open Custody (Record Pending)

variable {κ τ : Type}

/-- The records of an owner keep issued tokens, at most one is open, and the accepted token is in no closed one. -/
structure Custody (own : κ → Prop) (records : κ → Option (Record τ)) (accepted : τ) (issued : List τ) : Prop where
  accepted_mem : accepted ∈ issued
  token_issued {k : κ} {c : Record τ} : own k → records k = some c → ∃ t ∈ issued, c.token = some t
  open_unique {k k' : κ} {c c' : Record τ} : own k → own k' → records k = some c → records k' = some c' →
    c.closed = false → c'.closed = false → k = k'
  closed_spent {k : κ} {c : Record τ} : own k → records k = some c → c.closed = true → c.token ≠ some accepted
  own_of_none {k : κ} : records k = none → own k

namespace Custody

section Operations

variable {own : κ → Prop} {records : κ → Option (Record τ)} {accepted : τ} {issued : List τ}

theorem open_of_accepted (h : Custody own records accepted issued) {k : κ} {c : Record τ} (hk : own k)
    (hc : records k = some c) (ht : c.token = some accepted) : c.closed = false := by
  cases hcl : c.closed with
  | false => rfl
  | true => exact absurd ht (h.closed_spent hk hc hcl)

/-- A token that was never issued is in no record. -/
theorem pending_of_new (h : Custody own records accepted issued) {t : τ} (ht : t ∉ issued) :
    Pending own records t := by
  intro k c hk hc htok
  obtain ⟨t', hmem, ht'⟩ := h.token_issued hk hc
  rw [htok] at ht'
  cases ht'
  exact ht hmem

/-- The issuer takes the accepted token back and issues a new one. -/
theorem issue (h : Custody own records accepted issued) {t : τ} (ht : t ∉ issued) :
    Custody own records t (t :: issued) where
  accepted_mem := List.mem_cons_self
  token_issued hk hc := by
    obtain ⟨t', hmem, ht'⟩ := h.token_issued hk hc
    exact ⟨t', List.mem_cons_of_mem t hmem, ht'⟩
  open_unique := h.open_unique
  closed_spent hk hc _ := h.pending_of_new ht _ _ hk hc
  own_of_none := h.own_of_none

variable [DecidableEq κ]

/-- The record `old` is closed, and `new` keeps the token. -/
def moved (records : κ → Option (Record τ)) (old new : κ) (c : Record τ) (t : τ) : κ → Option (Record τ) :=
  fun k => if k = old then some { c with closed := true } else if k = new then some ⟨false, some t⟩ else records k

/-- The accepted token goes from no record into a new one, and the open record is closed. -/
theorem replace (h : Custody own records accepted issued) (hp : Pending own records accepted) {old new : κ}
    {c : Record τ} (hold : own old) (hc : records old = some c) (hopen : c.closed = false) :
    Custody own (moved records old new c accepted) accepted issued := by
  -- the records after the move
  have hcases : ∀ {k : κ} {c' : Record τ}, moved records old new c accepted k = some c' →
      (k = old ∧ c' = { c with closed := true }) ∨ (k = new ∧ c' = ⟨false, some accepted⟩) ∨
        (k ≠ old ∧ records k = some c') := by
    intro k c' hk
    unfold moved at hk
    split at hk
    · rename_i ho
      cases hk
      exact Or.inl ⟨ho, rfl⟩
    · rename_i ho
      split at hk
      · rename_i hn
        cases hk
        exact Or.inr (Or.inl ⟨hn, rfl⟩)
      · exact Or.inr (Or.inr ⟨ho, hk⟩)
  have honly : ∀ {k : κ} {c' : Record τ}, own k → moved records old new c accepted k = some c' →
      c'.closed = false → k = new := by
    intro k c' hk hc' hcl
    rcases hcases hc' with ⟨-, rfl⟩ | ⟨hn, -⟩ | ⟨ho, hc'⟩
    · cases hcl
    · exact hn
    · exact absurd (h.open_unique hk hold hc' hc hcl hopen) ho
  refine ⟨h.accepted_mem, ?_, ?_, ?_, ?_⟩
  · intro k c' hk hc'
    rcases hcases hc' with ⟨-, rfl⟩ | ⟨-, rfl⟩ | ⟨-, hc'⟩
    · obtain ⟨t, hmem, ht⟩ := h.token_issued hold hc
      exact ⟨t, hmem, ht⟩
    · exact ⟨accepted, h.accepted_mem, rfl⟩
    · exact h.token_issued hk hc'
  · intro k k' c₁ c₂ hk hk' h₁ h₂ hcl₁ hcl₂
    exact (honly hk h₁ hcl₁).trans (honly hk' h₂ hcl₂).symm
  · intro k c' hk hc' hcl
    rcases hcases hc' with ⟨-, rfl⟩ | ⟨-, rfl⟩ | ⟨-, hc'⟩
    · exact hp old c hold hc
    · cases hcl
    · exact hp k c' hk hc'
  · intro k hk
    unfold moved at hk
    split at hk
    · cases hk
    · split at hk
      · cases hk
      · exact h.own_of_none hk

/-- After the move the open record keeps the accepted token. -/
theorem moved_open (h : Custody own records accepted issued) {old new : κ} {c c' : Record τ} (hold : own old)
    (hc : records old = some c) (hopen : c.closed = false) {k : κ} (hk : own k)
    (hc' : moved records old new c accepted k = some c') (hcl : c'.closed = false) : c'.token = some accepted := by
  unfold moved at hc'
  split at hc'
  · cases hc'
    cases hcl
  · rename_i ho
    split at hc'
    · cases hc'
      rfl
    · exact absurd (h.open_unique hk hold hc' hc hcl hopen) ho

end Operations

end Custody

end CleanBackend
