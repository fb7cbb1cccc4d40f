import CleanBackend.Lib.Machine
import Mathlib.Data.Finset.Insert
import Mathlib.Data.Finset.Erase

/-!
# Migrations

Changes with their prerequisites, each with a script that deploys it and one that reverts it.  A change is deployed
when its prerequisites are, and reverted when no deployed change requires it.  A relation between the deployed changes
and the state that every such script establishes without an error (`Migrations.keeps`) holds in every state, and no
script that is allowed there fails.
-/

namespace CleanBackend

/-- The changes: what each requires, and its scripts. -/
structure Migrations (κ σ ε : Type) where
  requires : κ → List κ
  deploy : κ → σ → Except ε σ
  revert : κ → σ → Except ε σ

inductive MigrationAction (κ : Type) where
  | deploy (c : κ)
  | revert (c : κ)
  deriving DecidableEq, Repr

/-- The registry of the deployed changes, and the state the scripts work on. -/
structure Deployment (κ σ : Type) where
  deployed : Finset κ
  state : σ

namespace Migrations

variable {κ σ ε : Type} [DecidableEq κ]

/-- The prerequisites are there, or nothing requires the change. -/
def Allows (M : Migrations κ σ ε) (D : Finset κ) : MigrationAction κ → Prop
  | .deploy c => c ∉ D ∧ ∀ r ∈ M.requires c, r ∈ D
  | .revert c => c ∈ D ∧ ∀ d ∈ D, c ∉ M.requires d

instance (M : Migrations κ σ ε) (D : Finset κ) (a : MigrationAction κ) : Decidable (M.Allows D a) := by
  cases a <;> unfold Allows <;> infer_instance

/-- The script of the action. -/
def script (M : Migrations κ σ ε) : MigrationAction κ → σ → Except ε σ
  | .deploy c => M.deploy c
  | .revert c => M.revert c

/-- The registry after the action. -/
def register (D : Finset κ) : MigrationAction κ → Finset κ
  | .deploy c => insert c D
  | .revert c => D.erase c

/-- Allowed actions whose scripts succeed. -/
def machine (M : Migrations κ σ ε) : Machine (Deployment κ σ) (MigrationAction κ) where
  step s a :=
    if M.Allows s.deployed a then
      match M.script a s.state with
      | .ok state => some ⟨register s.deployed a, state⟩
      | .error _ => none
    else none

variable {M : Migrations κ σ ε} {D : Finset κ} {s s' : Deployment κ σ} {a : MigrationAction κ} {c d : κ}

theorem step_cases (h : M.machine.step s a = some s') :
    M.Allows s.deployed a ∧ s'.deployed = register s.deployed a ∧ M.script a s.state = .ok s'.state := by
  simp only [machine] at h
  split at h
  · rename_i ha
    split at h
    · rename_i state hs
      cases h
      exact ⟨ha, rfl, hs⟩
    · cases h
  · cases h

private theorem step_of_script (ha : M.Allows s.deployed a) {state : σ} (hs : M.script a s.state = .ok state) :
    M.machine.step s a = some ⟨register s.deployed a, state⟩ := by
  simp only [machine, if_pos ha, hs]

/-! ### Prerequisites of prerequisites -/

/-- Every deployed change has its prerequisites deployed. -/
def Closed (M : Migrations κ σ ε) (D : Finset κ) : Prop := ∀ c ∈ D, ∀ r ∈ M.requires c, r ∈ D

omit [DecidableEq κ] in
theorem Closed.empty (M : Migrations κ σ ε) : M.Closed ∅ := fun _ hc => (Finset.notMem_empty _ hc).elim

private theorem Closed.register (h : M.Closed D) (ha : M.Allows D a) : M.Closed (register D a) := by
  cases a with
  | deploy c =>
    intro d hd r hr
    rcases Finset.mem_insert.1 hd with rfl | hd
    · exact Finset.mem_insert_of_mem (ha.2 r hr)
    · exact Finset.mem_insert_of_mem (h d hd r hr)
  | revert c =>
    intro d hd r hr
    have hdD := (Finset.mem_erase.1 hd).2
    refine Finset.mem_erase.2 ⟨?_, h d hdD r hr⟩
    rintro rfl
    exact ha.2 d hdD hr

/-- The changes that a change requires, directly or through at most `n` others. -/
def ancestors (M : Migrations κ σ ε) : Nat → κ → List κ
  | 0, c => M.requires c
  | n + 1, c => M.requires c ++ (M.requires c).flatMap (M.ancestors n)

omit [DecidableEq κ] in
theorem Closed.ancestors (h : M.Closed D) {n : Nat} (hc : c ∈ D) {r : κ} (hr : r ∈ M.ancestors n c) : r ∈ D := by
  induction n generalizing c with
  | zero => exact h c hc r hr
  | succ n ih =>
    rcases List.mem_append.1 hr with hr | hr
    · exact h c hc r hr
    · obtain ⟨d, hd, hr⟩ := List.mem_flatMap.1 hr
      exact ih (h c hc d hd) hr

omit [DecidableEq κ] in
/-- The ancestors of a change that may be deployed. -/
theorem Closed.ancestors_of_allows (h : M.Closed D) (ha : M.Allows D (.deploy c)) {n : Nat} {r : κ}
    (hr : r ∈ M.ancestors n c) : r ∈ D := by
  cases n with
  | zero => exact ha.2 r hr
  | succ n =>
    rcases List.mem_append.1 hr with hr | hr
    · exact ha.2 r hr
    · obtain ⟨d, hd, hr⟩ := List.mem_flatMap.1 hr
      exact h.ancestors (ha.2 d hd) hr

omit [DecidableEq κ] in
/-- A change among the ancestors of a deployed one is required by a deployed one. -/
theorem Closed.required (h : M.Closed D) {n : Nat} (hd : d ∈ D) (hc : c ∈ M.ancestors n d) :
    ∃ d' ∈ D, c ∈ M.requires d' := by
  induction n generalizing d with
  | zero => exact ⟨d, hd, hc⟩
  | succ n ih =>
    rcases List.mem_append.1 hc with hc | hc
    · exact ⟨d, hd, hc⟩
    · obtain ⟨r, hr, hc⟩ := List.mem_flatMap.1 hc
      exact ih (h d hd r hr) hc

/-! ### The rule -/

/-- The scripts establish `R` without an error, as long as the prerequisites are respected. -/
structure Keeps (M : Migrations κ σ ε) (R : Finset κ → σ → Prop) : Prop where
  script : ∀ {D : Finset κ} {s : σ} {a : MigrationAction κ}, M.Closed D → R D s → M.Allows D a →
    ∃ s', M.script a s = .ok s' ∧ R (register D a) s'

theorem Keeps.reachable {R : Finset κ → σ → Prop} (hR : M.Keeps R) {s₀ : σ} (h₀ : R ∅ s₀)
    (h : M.machine.Reachable ⟨∅, s₀⟩ s) : M.Closed s.deployed ∧ R s.deployed s.state := by
  refine h.invariant (P := fun s => M.Closed s.deployed ∧ R s.deployed s.state) ?_ ⟨.empty M, h₀⟩
  rintro s a s' ⟨hclosed, hs⟩ hstep
  obtain ⟨ha, hD, hscript⟩ := step_cases hstep
  obtain ⟨t, ht, htR⟩ := hR.script hclosed hs ha
  cases hscript.symm.trans ht
  rw [hD]
  exact ⟨hclosed.register ha, htR⟩

/-- No allowed action fails. -/
theorem Keeps.succeeds {R : Finset κ → σ → Prop} (hR : M.Keeps R) {s₀ : σ} (h₀ : R ∅ s₀)
    (h : M.machine.Reachable ⟨∅, s₀⟩ s) (ha : M.Allows s.deployed a) : ∃ s', M.machine.step s a = some s' := by
  obtain ⟨hclosed, hs⟩ := hR.reachable h₀ h
  obtain ⟨t, ht, -⟩ := hR.script hclosed hs ha
  exact ⟨_, step_of_script ha ht⟩

end Migrations

end CleanBackend
