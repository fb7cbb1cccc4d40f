/-!
# Programs that call out

A program ends with a result, or makes a call and goes on with the answer.  `Program.run` runs it against a system
that answers.  Two rules: systems that a map relates run a program alike (`run_map`), and what every call preserves
the program preserves (`run_induction`).
-/

namespace CleanBackend

/-- Calls in `κ`, answers in `α`, results in `ω`. -/
inductive Program (κ α ω : Type) where
  | done (result : ω)
  | call (c : κ) (next : α → Program κ α ω)

namespace Program

variable {κ α ω σ τ : Type}

/-- The state of the system after the program, and its result. -/
def run (exec : σ → κ → σ × α) : Program κ α ω → σ → σ × ω
  | done result, s => (s, result)
  | call c next, s => (next (exec s c).2).run exec (exec s c).1

/-- `f` maps every step of one system to a step of the other. -/
theorem run_map {exec : σ → κ → σ × α} {exec' : τ → κ → τ × α} {f : σ → τ}
    (h : ∀ s c, exec' (f s) c = (f (exec s c).1, (exec s c).2)) (p : Program κ α ω) (s : σ) :
    p.run exec' (f s) = (f (p.run exec s).1, (p.run exec s).2) := by
  induction p generalizing s with
  | done result => rfl
  | call c next ih =>
    simp only [run]
    rw [h s c]
    exact ih (exec s c).2 (exec s c).1

/-- What every call preserves, the program preserves. -/
theorem run_induction {exec : σ → κ → σ × α} {P : σ → Prop} (h : ∀ s c, P s → P (exec s c).1) (p : Program κ α ω)
    {s : σ} (hs : P s) : P (p.run exec s).1 := by
  induction p generalizing s with
  | done result => exact hs
  | call c next ih => exact ih (exec s c).2 (h s c hs)

end Program

end CleanBackend
