/-!
# Two runs of a computation

`TwoRuns W E A m m'` compares two computations that may raise: from states that `W` relates they end in states that
`W` relates, both with exceptions that `E` relates, given the state where the first run ends, or both with values that
`A` relates.  The rules follow the operations of the monad, so that two runs of one program are compared statement by
statement.
-/

namespace CleanBackend

variable {ε σ τ α β α' β' : Type}

/-- The same exception, or related values. -/
inductive SameExcept (A : α → β → Prop) : Except ε α → Except ε β → Prop where
  | ok {a : α} {b : β} (ha : A a b) : SameExcept A (.ok a) (.ok b)
  | error (e : ε) : SameExcept A (.error e) (.error e)

/-- Related exceptions, or related values; and related states. -/
inductive SameResult (W : σ → τ → Prop) (E : σ → ε → ε → Prop) (A : α → β → Prop) :
    EStateM.Result ε σ α → EStateM.Result ε τ β → Prop where
  | ok {a : α} {b : β} {s : σ} {t : τ} (ha : A a b) (hw : W s t) : SameResult W E A (.ok a s) (.ok b t)
  | error {e e' : ε} {s : σ} {t : τ} (he : E s e e') (hw : W s t) : SameResult W E A (.error e s) (.error e' t)

theorem SameExcept.of_eq {r r' : Except ε α} (h : r = r') : SameExcept Eq r r' := by
  subst h
  cases r with
  | ok a => exact .ok rfl
  | error e => exact .error e

/-- A check that both pass or both fail. -/
theorem SameExcept.check {A : α → β → Prop} {p q : Prop} [Decidable p] [Decidable q] (hpq : p ↔ q) {e : ε}
    {x : p → Except ε α} {y : q → Except ε β} (h : ∀ hp hq, SameExcept A (x hp) (y hq)) :
    SameExcept A (if hp : p then x hp else .error e) (if hq : q then y hq else .error e) := by
  by_cases hp : p
  · rw [dif_pos hp, dif_pos (hpq.1 hp)]
    exact h _ _
  · rw [dif_neg hp, dif_neg (mt hpq.2 hp)]
    exact .error e

theorem SameExcept.elim {A : α → β → Prop} {r : Except ε α} {r' : Except ε β} (h : SameExcept A r r') :
    (∃ e, r = .error e ∧ r' = .error e) ∨ ∃ a b, r = .ok a ∧ r' = .ok b ∧ A a b := by
  cases h with
  | ok ha => exact Or.inr ⟨_, _, rfl, rfl, ha⟩
  | error e => exact Or.inl ⟨e, rfl, rfl⟩

def TwoRuns (W : σ → τ → Prop) (E : σ → ε → ε → Prop) (A : α → β → Prop) (m : EStateM ε σ α) (m' : EStateM ε τ β) :
    Prop := ∀ s t, W s t → SameResult W E A (m s) (m' t)

namespace TwoRuns

variable {W : σ → τ → Prop} {E E' : σ → ε → ε → Prop} {A : α → β → Prop} {B : α' → β' → Prop}

theorem pure {a : α} {b : β} (h : A a b) : TwoRuns W E A (pure a : EStateM ε σ α) (pure b) :=
  fun _ _ hw => .ok h hw

theorem throw {e e' : ε} (h : ∀ s, E s e e') : TwoRuns W E A (throw e : EStateM ε σ α) (throw e') :=
  fun s _ hw => .error (h s) hw

theorem throw_same (e : ε) : TwoRuns W (fun _ => Eq) A (MonadExcept.throw e : EStateM ε σ α) (MonadExcept.throw e) :=
  throw fun _ => rfl

/-- More exceptions are related. -/
theorem mono_error {m : EStateM ε σ α} {m' : EStateM ε τ β} (hm : TwoRuns W E A m m')
    (hE : ∀ s e e', E s e e' → E' s e e') : TwoRuns W E' A m m' := by
  intro s t hw
  have h := hm s t hw
  generalize m s = r at h
  generalize m' t = r' at h
  cases h with
  | ok ha hw => exact .ok ha hw
  | error he hw => exact .error (hE _ _ _ he) hw

theorem bind {m : EStateM ε σ α} {m' : EStateM ε τ β} {f : α → EStateM ε σ α'} {f' : β → EStateM ε τ β'}
    (hm : TwoRuns W E A m m') (hf : ∀ a b, A a b → TwoRuns W E B (f a) (f' b)) :
    TwoRuns W E B (m >>= f) (m' >>= f') := by
  intro s t hw
  show SameResult W E B (EStateM.bind m f s) (EStateM.bind m' f' t)
  unfold EStateM.bind
  have h := hm s t hw
  generalize m s = r at h
  generalize m' t = r' at h
  cases h with
  | ok ha hw => exact hf _ _ ha _ _ hw
  | error he hw => exact .error he hw

/-- A value that is equal in the two runs. -/
theorem bind_eq {m : EStateM ε σ α} {m' : EStateM ε τ α} {f : α → EStateM ε σ α'} {f' : α → EStateM ε τ β'}
    (hm : TwoRuns W E Eq m m') (hf : ∀ a, TwoRuns W E B (f a) (f' a)) : TwoRuns W E B (m >>= f) (m' >>= f') := by
  refine hm.bind fun a b hab => ?_
  subst hab
  exact hf a

/-- What the handlers do with two related exceptions is compared. -/
theorem tryCatch {m : EStateM ε σ α} {m' : EStateM ε τ β} {f : ε → EStateM ε σ α} {f' : ε → EStateM ε τ β}
    (hm : TwoRuns W E A m m') (hf : ∀ s e e', E s e e' → TwoRuns W E' A (f e) (f' e')) :
    TwoRuns W E' A (tryCatch m f) (tryCatch m' f') := by
  intro s t hw
  show SameResult W E' A (EStateM.tryCatch m f s) (EStateM.tryCatch m' f' t)
  unfold EStateM.tryCatch
  have h := hm s t hw
  generalize m s = r at h
  generalize m' t = r' at h
  cases h with
  | ok ha hw => exact .ok ha hw
  | error he hw => exact hf _ _ _ he _ _ hw

/-- Reading a part of the state. -/
theorem get : TwoRuns W E W (get : EStateM ε σ σ) (EStateM.get) := fun _ _ hw => .ok hw hw

theorem modify {f : σ → σ} {f' : τ → τ} (h : ∀ s t, W s t → W (f s) (f' t)) :
    TwoRuns W E Eq (modify f : EStateM ε σ PUnit) (modify f') := fun s t hw => .ok rfl (h s t hw)

end TwoRuns

end CleanBackend
