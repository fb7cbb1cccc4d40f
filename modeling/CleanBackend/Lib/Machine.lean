/-!
# Machines and their runs

A machine is a partial step function: `step s a` is the state the action `a` leads to, and `none` when `a` is not
enabled in `s`.  A nondeterministic system is a machine whose actions carry the choices, so that a run is a list of
actions and can be evaluated.  The two rules used everywhere: an invariant of the steps is an invariant of the runs
(`Machine.run_induction`), and the same for runs whose steps all meet a condition (`Machine.along_induction`).
-/

namespace CleanBackend

/-- A state type with a partial step function. -/
structure Machine (σ α : Type) where
  step : σ → α → Option σ

namespace Machine

variable {σ α : Type}

/-- The state after a list of actions. -/
def run (M : Machine σ α) : σ → List α → Option σ
  | s, [] => some s
  | s, a :: as => (M.step s a).bind fun s' => run M s' as

def Reachable (M : Machine σ α) (s₀ s : σ) : Prop := ∃ as, M.run s₀ as = some s

/-- Every step of the run meets the condition `C` on the state before it and the action. -/
def Along (M : Machine σ α) (C : σ → α → Prop) : σ → List α → Prop
  | _, [] => True
  | s, a :: as => C s a ∧ ∀ s', M.step s a = some s' → Along M C s' as

variable {M : Machine σ α}

@[simp] theorem run_nil (s : σ) : M.run s [] = some s := rfl

theorem run_cons {s t : σ} {a : α} {as : List α} :
    M.run s (a :: as) = some t ↔ ∃ s', M.step s a = some s' ∧ M.run s' as = some t := by
  simp [run, Option.bind_eq_some_iff]

private theorem run_append {s t : σ} {as bs : List α} :
    M.run s (as ++ bs) = some t ↔ ∃ s', M.run s as = some s' ∧ M.run s' bs = some t := by
  induction as generalizing s with
  | nil => simp
  | cons a as ih =>
    rw [List.cons_append, run_cons]
    constructor
    · rintro ⟨s₁, h₁, h⟩
      obtain ⟨s₂, h₂, h₃⟩ := ih.1 h
      exact ⟨s₂, run_cons.2 ⟨s₁, h₁, h₂⟩, h₃⟩
    · rintro ⟨s₂, h, h₃⟩
      obtain ⟨s₁, h₁, h₂⟩ := run_cons.1 h
      exact ⟨s₁, h₁, ih.2 ⟨s₂, h₂, h₃⟩⟩

/-- What every step preserves, every run preserves. -/
theorem run_induction {P : σ → Prop} (hstep : ∀ s a s', P s → M.step s a = some s' → P s')
    {s t : σ} {as : List α} (h : M.run s as = some t) (hs : P s) : P t := by
  induction as generalizing s with
  | nil => cases h; exact hs
  | cons a as ih =>
    obtain ⟨s', h₁, h₂⟩ := run_cons.1 h
    exact ih h₂ (hstep s a s' hs h₁)

/-- The same for a run whose steps all meet a condition. -/
theorem along_induction {P : σ → Prop} {C : σ → α → Prop}
    (hstep : ∀ s a s', P s → C s a → M.step s a = some s' → P s') {s t : σ} {as : List α} (h : M.run s as = some t)
    (hc : M.Along C s as) (hs : P s) : P t := by
  induction as generalizing s with
  | nil => cases h; exact hs
  | cons a as ih =>
    obtain ⟨s', h₁, h₂⟩ := run_cons.1 h
    exact ih h₂ (hc.2 s' h₁) (hstep s a s' hs hc.1 h₁)

/-- What a step in a state of an invariant meets, every step of the run meets. -/
theorem Along.of_invariant {P : σ → Prop} {C D : σ → α → Prop}
    (hstep : ∀ s a s', P s → C s a → M.step s a = some s' → P s') (hD : ∀ s a, P s → C s a → D s a) {s : σ}
    {as : List α} (hc : M.Along C s as) (hs : P s) : M.Along D s as := by
  induction as generalizing s with
  | nil => trivial
  | cons a as ih => exact ⟨hD s a hs hc.1, fun s' h => ih (hc.2 s' h) (hstep s a s' hs hc.1 h)⟩

theorem Along.of_forall {C : σ → α → Prop} {as : List α} (h : ∀ a ∈ as, ∀ s, C s a) (s : σ) : M.Along C s as := by
  induction as generalizing s with
  | nil => trivial
  | cons a as ih =>
    exact ⟨h a List.mem_cons_self s, fun s' _ => ih (fun b hb => h b (List.mem_cons_of_mem a hb)) s'⟩

theorem Along.cons {C : σ → α → Prop} {s s' : σ} {a : α} {as : List α} (hc : C s a) (h : M.step s a = some s')
    (hs : M.Along C s' as) : M.Along C s (a :: as) := by
  refine ⟨hc, fun s'' h' => ?_⟩
  cases h.symm.trans h'
  exact hs

theorem Along.and {C D : σ → α → Prop} {s : σ} {as : List α} (hc : M.Along C s as) (hd : M.Along D s as) :
    M.Along (fun s a => C s a ∧ D s a) s as := by
  induction as generalizing s with
  | nil => trivial
  | cons a as ih => exact ⟨⟨hc.1, hd.1⟩, fun s' h => ih (hc.2 s' h) (hd.2 s' h)⟩

theorem Along.mono {C D : σ → α → Prop} {s : σ} {as : List α} (hc : M.Along C s as) (h : ∀ s a, C s a → D s a) :
    M.Along D s as := hc.of_invariant (P := fun _ => True) (fun _ _ _ _ _ _ => trivial) (fun s a _ => h s a) trivial

theorem Along.append {C : σ → α → Prop} {s t : σ} {as bs : List α} (h : M.run s as = some t)
    (hc : M.Along C s (as ++ bs)) : M.Along C s as ∧ M.Along C t bs := by
  induction as generalizing s with
  | nil => cases h; exact ⟨trivial, hc⟩
  | cons a as ih =>
    obtain ⟨s', h₁, h₂⟩ := run_cons.1 h
    obtain ⟨hcs, hct⟩ := ih h₂ (hc.2 s' h₁)
    refine ⟨⟨hc.1, fun s'' h₃ => ?_⟩, hct⟩
    rw [h₁] at h₃
    cases h₃
    exact hcs

/-- A condition that can be evaluated on every step can be evaluated on a run. -/
instance Along.decidable {C : σ → α → Prop} [∀ s a, Decidable (C s a)] : ∀ s as, Decidable (M.Along C s as)
  | _, [] => isTrue trivial
  | s, a :: as =>
    match h : M.step s a with
    | none => decidable_of_iff (C s a) ⟨fun hc => ⟨hc, fun _ h' => nomatch h.symm.trans h'⟩, fun hc => hc.1⟩
    | some s' =>
      haveI := Along.decidable (C := C) s' as
      decidable_of_iff (C s a ∧ M.Along C s' as)
        ⟨fun hc => ⟨hc.1, fun _ h' => Option.some.inj (h.symm.trans h') ▸ hc.2⟩, fun hc => ⟨hc.1, hc.2 s' h⟩⟩

/-- `N` follows a run of `M`, in states that `R` relates for the actions to come. -/
theorem exists_run_of_simulation {τ : Type} {N : Machine τ α} {R : σ → τ → List α → Prop}
    (hstep : ∀ s t a as s', R s t (a :: as) → M.step s a = some s' → ∃ t', N.step t a = some t' ∧ R s' t' as)
    {s s' : σ} {t : τ} {as : List α} (hR : R s t as) (h : M.run s as = some s') :
    ∃ t', N.run t as = some t' ∧ R s' t' [] := by
  induction as generalizing s t with
  | nil => cases h; exact ⟨t, rfl, hR⟩
  | cons a as ih =>
    obtain ⟨s₁, h₁, h₂⟩ := run_cons.1 h
    obtain ⟨t₁, ht₁, hR₁⟩ := hstep s t a as s₁ hR h₁
    obtain ⟨t', ht', hR'⟩ := ih hR₁ h₂
    exact ⟨t', run_cons.2 ⟨t₁, ht₁, ht'⟩, hR'⟩

/-- What `M` meets along the run, `N` meets. -/
theorem Along.of_simulation {τ : Type} {N : Machine τ α} {R : σ → τ → List α → Prop} {C : σ → α → Prop}
    {D : τ → α → Prop}
    (hstep : ∀ s t a as s', R s t (a :: as) → M.step s a = some s' → ∃ t', N.step t a = some t' ∧ R s' t' as)
    (hCD : ∀ s t a as, R s t (a :: as) → C s a → D t a) {s s' : σ} {t : τ} {as : List α} (hR : R s t as)
    (h : M.run s as = some s') (hc : M.Along C s as) : N.Along D t as := by
  induction as generalizing s t with
  | nil => trivial
  | cons a as ih =>
    obtain ⟨s₁, h₁, h₂⟩ := run_cons.1 h
    obtain ⟨t₁, ht₁, hR₁⟩ := hstep s t a as s₁ hR h₁
    refine ⟨hCD s t a as hR hc.1, fun t' ht' => ?_⟩
    cases ht₁.symm.trans ht'
    exact ih hR₁ h₂ (hc.2 s₁ h₁)

theorem Reachable.refl (s : σ) : M.Reachable s s := ⟨[], rfl⟩

theorem Reachable.head {s s' t : σ} {a : α} (h : M.step s a = some s') (ht : M.Reachable s' t) :
    M.Reachable s t := by
  obtain ⟨as, has⟩ := ht
  exact ⟨a :: as, run_cons.2 ⟨s', h, has⟩⟩

theorem Reachable.trans {s t u : σ} (h : M.Reachable s t) (h' : M.Reachable t u) : M.Reachable s u := by
  obtain ⟨as, has⟩ := h
  obtain ⟨bs, hbs⟩ := h'
  exact ⟨as ++ bs, run_append.2 ⟨t, has, hbs⟩⟩

theorem Reachable.invariant {P : σ → Prop} (hstep : ∀ s a s', P s → M.step s a = some s' → P s')
    {s t : σ} (h : M.Reachable s t) (hs : P s) : P t := by
  obtain ⟨as, has⟩ := h
  exact run_induction hstep has hs

/-- Where every state with a measure left has a step of kind `C` that lowers it, such steps lead to a state with none.
-/
theorem exists_run_of_measure {P : σ → Prop} {C : α → Prop} (μ : σ → Nat)
    (hstep : ∀ s, P s → μ s ≠ 0 → ∃ a s', C a ∧ M.step s a = some s' ∧ P s' ∧ μ s' < μ s) {s : σ} (hs : P s) :
    ∃ as t, (∀ a ∈ as, C a) ∧ M.run s as = some t ∧ P t ∧ μ t = 0 := by
  induction hn : μ s using Nat.strongRecOn generalizing s with
  | ind n ih =>
    by_cases h₀ : μ s = 0
    · exact ⟨[], s, by simp, rfl, hs, h₀⟩
    · obtain ⟨a, s', ha, h₁, hs', hlt⟩ := hstep s hs h₀
      obtain ⟨as, t, has, h₂, ht, ht₀⟩ := ih (μ s') (hn ▸ hlt) hs' rfl
      refine ⟨a :: as, t, ?_, run_cons.2 ⟨s', h₁, h₂⟩, ht, ht₀⟩
      intro b hb
      rcases List.mem_cons.1 hb with rfl | hb
      · exact ha
      · exact has b hb

end Machine

end CleanBackend
