import CleanBackend.Lib.Machine

/-!
# Linearizations

An object with atomic operations (`exec`), and a machine in which operations of many clients overlap.  A linearization
lists operations with the clients that made them; `replay` runs them one after the other on the object and gives each
client its reply.  A relation between the states of the machine and the linearizations that every step keeps, while it
adds to the list at its end, gives every run one linearization that grows with it (`exists_replay`): an operation that
is listed when another one starts comes first.
-/

namespace CleanBackend

namespace Linearization

variable {δ κ α τ σ β : Type}

/-- The object after the operations, and the reply to each. -/
def replay (exec : δ → κ → δ × α) : δ → List (τ × κ) → δ × List (τ × α)
  | d, [] => (d, [])
  | d, (t, c) :: L => ((replay exec (exec d c).1 L).1, (t, (exec d c).2) :: (replay exec (exec d c).1 L).2)

variable {exec : δ → κ → δ × α}

private theorem replay_append (d : δ) (L L' : List (τ × κ)) :
    replay exec d (L ++ L') =
      ((replay exec (replay exec d L).1 L').1, (replay exec d L).2 ++ (replay exec (replay exec d L).1 L').2) := by
  induction L generalizing d with
  | nil => rfl
  | cons e L ih => simp only [List.cons_append, replay, ih]

theorem replay_snoc (d : δ) (L : List (τ × κ)) (t : τ) (c : κ) :
    replay exec d (L ++ [(t, c)]) =
      ((exec (replay exec d L).1 c).1, (replay exec d L).2 ++ [(t, (exec (replay exec d L).1 c).2)]) :=
  replay_append d L [(t, c)]

/-- What every operation preserves, the replay preserves. -/
theorem replay_induction {P : δ → Prop} (h : ∀ d c, P d → P (exec d c).1) {d : δ} (hd : P d) (L : List (τ × κ)) :
    P (replay exec d L).1 := by
  induction L generalizing d with
  | nil => exact hd
  | cons e L ih => exact ih (h d e.2 hd)

/-- Where every step keeps a relation and may add operations at the end, a run has one list, in a part for each step,
of which the parts so far are related to every state of the run. -/
theorem exists_replay {M : Machine σ β} {C : σ → β → Prop} {I : σ → List (τ × κ) → Prop}
    (hstep : ∀ s a s' L, I s L → C s a → M.step s a = some s' → ∃ L', I s' (L ++ L')) {s s' : σ} {as : List β}
    {L : List (τ × κ)} (h : M.run s as = some s') (hc : M.Along C s as) (hI : I s L) :
    ∃ Ls : List (List (τ × κ)), Ls.length = as.length ∧
      ∀ k t, M.run s (as.take k) = some t → I t (L ++ (Ls.take k).flatten) := by
  have hstart : ∀ {t : σ}, M.run s [] = some t → I t (L ++ []) := by
    intro t ht
    cases ht
    rwa [List.append_nil]
  induction as generalizing s L with
  | nil =>
    refine ⟨[], rfl, fun k t ht => ?_⟩
    rw [List.take_nil] at ht ⊢
    exact hstart ht
  | cons a as ih =>
    obtain ⟨s₁, h₁, h₂⟩ := Machine.run_cons.1 h
    obtain ⟨L₁, hI₁⟩ := hstep s a s₁ L hI hc.1 h₁
    obtain ⟨Ls, hlength, hparts⟩ := ih h₂ (hc.2 s₁ h₁) hI₁ fun ht => by
      cases ht
      rwa [List.append_nil]
    refine ⟨L₁ :: Ls, congrArg Nat.succ hlength, fun k t ht => ?_⟩
    cases k with
    | zero => exact hstart ht
    | succ k =>
      rw [List.take_succ_cons] at ht
      obtain ⟨s₂, hs₂, ht⟩ := Machine.run_cons.1 ht
      cases h₁.symm.trans hs₂
      rw [List.take_succ_cons, List.flatten_cons, ← List.append_assoc]
      exact hparts k t ht

end Linearization

end CleanBackend
